import BoardDebug.Program
import BoardDebug.Proofs.Json.Format

namespace BoardDebug

open Json

namespace Breakpoint

/-- The members of a breakpoint. -/
def members : List (Slot Breakpoint) :=
  [.required "id" id .word, .required "binAddr" address .word,
    .defaulted "successors" successors Format.word.list []]

/-- What has been read of a breakpoint, once these members have been. -/
def draft (b : Breakpoint) (names : List String) : Draft where
  id := given "id" names b.id
  address := given "binAddr" names b.address
  successors := given "successors" names b.successors

theorem fills : record.Fills 1 draft members where
  unknown_eq := rfl
  blank_eq _ := rfl
  fields b :=
    have hword := reads_word.mono (Nat.zero_le 1)
    .cons (Field.required_fills hword (fun _ => rfl) fun _ => by simp [draft, given])
      (.cons (Field.required_fills hword (fun _ => rfl) fun _ => by simp [draft, given])
        (.cons (Field.defaulted_fills reads_word.list (fun _ => rfl) fun _ => by
          simp [draft, given]) .nil))
  finish_eq {b names} h := by
    simp only [members, Slot.required, Slot.defaulted, List.forall_mem_cons] at h
    obtain ⟨hid, haddress, hsuccessors, -⟩ := h
    simp [record, draft, given_eq_some hid, given_eq_some haddress, getD_given hsuccessors]

theorem fit (b : Breakpoint) :
    Slot.Fit members b [("id", Utf8.encode (ofWord b.id).chars),
      ("binAddr", Utf8.encode (ofWord b.address).chars),
      ("successors", Utf8.encode (Value.list (b.successors.map ofWord)).chars)] := by
  refine Slot.fit_of_forall₂ (.cons ?_ (.cons ?_ (.cons ?_ .nil))) (by decide)
  · exact ⟨rfl, Format.word_chars _⟩
  · exact ⟨rfl, Format.word_chars _⟩
  · exact ⟨rfl, Format.list_map_chars Format.word_chars _⟩

theorem record_toJson (b : Breakpoint) : Format.record members b (Utf8.encode b.toJson.chars) :=
  Format.record_chars b.fit

end Breakpoint

namespace LocalVariable

/-- The members of a variable. -/
def members : List (Slot LocalVariable) :=
  [.required "name" name .text, .defaulted "slot" slot Format.word.optional none]

def draft (v : LocalVariable) (names : List String) : Draft where
  name := given "name" names v.name
  slot := given "slot" names v.slot

theorem fills : record.Fills 0 draft members where
  unknown_eq := rfl
  blank_eq _ := rfl
  fields v :=
    .cons (Field.required_fills reads_text (fun _ => rfl) fun _ => by simp [draft, given])
      (.cons (Field.defaulted_fills (reads_word.optional word_head?_ne) (fun _ => rfl) fun _ => by
        simp [draft, given]) .nil)
  finish_eq {v names} h := by
    simp only [members, Slot.required, Slot.defaulted, List.forall_mem_cons] at h
    obtain ⟨hname, hslot, -⟩ := h
    simp [record, draft, given_eq_some hname, getD_given hslot]

theorem fit (v : LocalVariable) :
    Slot.Fit members v [("name", Utf8.encode (Value.text v.name).chars),
      ("slot", Utf8.encode (ofOption ofWord v.slot).chars)] := by
  refine Slot.fit_of_forall₂ (.cons ?_ (.cons ?_ .nil)) (by decide)
  · exact ⟨rfl, Format.text_chars _⟩
  · exact ⟨rfl, Format.optional_chars Format.word_chars _⟩

theorem record_toJson (v : LocalVariable) : Format.record members v (Utf8.encode v.toJson.chars) :=
  Format.record_chars v.fit

end LocalVariable

namespace CallSite

/-- The members of a call. -/
def members : List (Slot CallSite) :=
  [.required "addr" address .word, .required "procIndex" callee .word,
    .required "stack" stack .word]

def draft (c : CallSite) (names : List String) : Draft where
  address := given "addr" names c.address
  callee := given "procIndex" names c.callee
  stack := given "stack" names c.stack

theorem fills : record.Fills 0 draft members where
  unknown_eq := rfl
  blank_eq _ := rfl
  fields c :=
    .cons (Field.required_fills reads_word (fun _ => rfl) fun _ => by simp [draft, given])
      (.cons (Field.required_fills reads_word (fun _ => rfl) fun _ => by simp [draft, given])
        (.cons (Field.required_fills reads_word (fun _ => rfl) fun _ => by simp [draft, given])
          .nil))
  finish_eq {c names} h := by
    simp only [members, Slot.required, List.forall_mem_cons] at h
    obtain ⟨haddress, hcallee, hstack, -⟩ := h
    simp [record, draft, given_eq_some haddress, given_eq_some hcallee, given_eq_some hstack]

theorem fit (c : CallSite) :
    Slot.Fit members c [("addr", Utf8.encode (ofWord c.address).chars),
      ("procIndex", Utf8.encode (ofWord c.callee).chars),
      ("stack", Utf8.encode (ofWord c.stack).chars)] := by
  refine Slot.fit_of_forall₂ (.cons ?_ (.cons ?_ (.cons ?_ .nil))) (by decide)
  · exact ⟨rfl, Format.word_chars _⟩
  · exact ⟨rfl, Format.word_chars _⟩
  · exact ⟨rfl, Format.word_chars _⟩

theorem record_toJson (c : CallSite) : Format.record members c (Utf8.encode c.toJson.chars) :=
  Format.record_chars c.fit

end CallSite

namespace Procedure

/-- The members of a procedure. -/
def members : List (Slot Procedure) :=
  [.required "idx" index .word, .defaulted "name" name .text "",
    .defaulted "locals" locals (Format.record LocalVariable.members).list [],
    .defaulted "calls" calls (Format.record CallSite.members).list [],
    .defaulted "bkptLoc" landingPad Format.word.optional none,
    .defaulted "codeStartLoc" bodyStart Format.word.optional none]

def draft (p : Procedure) (names : List String) : Draft where
  index := given "idx" names p.index
  name := given "name" names p.name
  locals := given "locals" names p.locals
  calls := given "calls" names p.calls
  landingPad := given "bkptLoc" names p.landingPad
  bodyStart := given "codeStartLoc" names p.bodyStart

theorem fills : record.Fills 2 draft members where
  unknown_eq := rfl
  blank_eq _ := rfl
  fields p := by
    have hword := reads_word.mono (Nat.zero_le 2)
    have hplace := hword.optional word_head?_ne
    refine .cons ?_ (.cons ?_ (.cons ?_ (.cons ?_ (.cons ?_ (.cons ?_ .nil)))))
    · exact Field.required_fills hword (fun _ => rfl) fun _ => by simp [draft, given]
    · exact Field.defaulted_fills (reads_text.mono (Nat.zero_le 2)) (fun _ => rfl) fun _ => by
        simp [draft, given]
    · exact Field.defaulted_fills LocalVariable.fills.reads.list (fun _ => rfl) fun _ => by
        simp [draft, given]
    · exact Field.defaulted_fills CallSite.fills.reads.list (fun _ => rfl) fun _ => by
        simp [draft, given]
    · exact Field.defaulted_fills hplace (fun _ => rfl) fun _ => by simp [draft, given]
    · exact Field.defaulted_fills hplace (fun _ => rfl) fun _ => by simp [draft, given]
  finish_eq {p names} h := by
    simp only [members, Slot.required, Slot.defaulted, List.forall_mem_cons] at h
    obtain ⟨hindex, hname, hlocals, hcalls, hpad, hstart, -⟩ := h
    simp [record, draft, given_eq_some hindex, getD_given hname, getD_given hlocals,
      getD_given hcalls, getD_given hpad, getD_given hstart]

theorem fit (p : Procedure) :
    Slot.Fit members p [("idx", Utf8.encode (ofWord p.index).chars),
      ("name", Utf8.encode (Value.text p.name).chars),
      ("locals", Utf8.encode (Value.list (p.locals.map LocalVariable.toJson)).chars),
      ("calls", Utf8.encode (Value.list (p.calls.map CallSite.toJson)).chars),
      ("bkptLoc", Utf8.encode (ofOption ofWord p.landingPad).chars),
      ("codeStartLoc", Utf8.encode (ofOption ofWord p.bodyStart).chars)] := by
  refine Slot.fit_of_forall₂
    (.cons ?_ (.cons ?_ (.cons ?_ (.cons ?_ (.cons ?_ (.cons ?_ .nil)))))) (by decide)
  · exact ⟨rfl, Format.word_chars _⟩
  · exact ⟨rfl, Format.text_chars _⟩
  · exact ⟨rfl, Format.list_map_chars LocalVariable.record_toJson _⟩
  · exact ⟨rfl, Format.list_map_chars CallSite.record_toJson _⟩
  · exact ⟨rfl, Format.optional_chars Format.word_chars _⟩
  · exact ⟨rfl, Format.optional_chars Format.word_chars _⟩

theorem record_toJson (p : Procedure) : Format.record members p (Utf8.encode p.toJson.chars) :=
  Format.record_chars p.fit

end Procedure

namespace Metadata

/-- The members of what a compiler says. -/
def members : List (Slot Metadata) :=
  [.required "breakpoints" breakpoints (Format.record Breakpoint.members).list,
    .defaulted "procDebugInfo" procedures (Format.record Procedure.members).list []]

def draft (m : Metadata) (names : List String) : Draft where
  breakpoints := given "breakpoints" names m.breakpoints
  procedures := given "procDebugInfo" names m.procedures

theorem fills : record.Fills 4 draft members where
  unknown_eq := rfl
  blank_eq _ := rfl
  fields m := by
    have hbreakpoints := Breakpoint.fills.reads.list.mono (by decide : 3 ≤ 4)
    refine .cons ?_ (.cons ?_ .nil)
    · exact Field.required_fills hbreakpoints (fun _ => rfl) fun _ => by simp [draft, given]
    · exact Field.defaulted_fills Procedure.fills.reads.list (fun _ => rfl) fun _ => by
        simp [draft, given]
  finish_eq {m names} h := by
    simp only [members, Slot.required, Slot.defaulted, List.forall_mem_cons] at h
    obtain ⟨hbreakpoints, hprocedures, -⟩ := h
    simp [record, draft, given_eq_some hbreakpoints, getD_given hprocedures]

theorem fit (m : Metadata) :
    Slot.Fit members m
      [("breakpoints", Utf8.encode (Value.list (m.breakpoints.map Breakpoint.toJson)).chars),
        ("procDebugInfo", Utf8.encode (Value.list (m.procedures.map Procedure.toJson)).chars)] := by
  refine Slot.fit_of_forall₂ (.cons ?_ (.cons ?_ .nil)) (by decide)
  · exact ⟨rfl, Format.list_map_chars Breakpoint.record_toJson _⟩
  · exact ⟨rfl, Format.list_map_chars Procedure.record_toJson _⟩

theorem record_toJson (m : Metadata) : Format.record members m (Utf8.encode m.toJson.chars) :=
  Format.record_chars m.fit

/-- What is written of the metadata is read back. So is every text that spells them: with blanks, in
any order, without members that have the value that counts then, and with others of any value, in
the metadata as in each of the records in them. -/
theorem ofJson_spelling (m : Metadata) :
    ofJson (Utf8.encode m.toJson.render.toList) = .ok m ∧
    ∀ text ws, Format.record members m text → Blanks ws → ofJson (text ++ ws) = .ok m := by
  have hreads (text ws : Bytes) (htext : Format.record members m text) (hws : Blanks ws) :
      ofJson (text ++ ws) = .ok m :=
    fills.reads.run_eq (by decide) htext hws
  refine ⟨?_, hreads⟩
  have := hreads _ [] (record_toJson m) blanks_nil
  rw [List.append_nil] at this
  rw [toList_render, this]

/-- A text in which all members stand in reverse, with two more, and those without a content are
left out. -/
theorem ofJson_spelling_reversed :
    let m : Metadata := ⟨[⟨1, 0x2100, []⟩], [⟨0, "main", [⟨"count", none⟩], [], none, none⟩]⟩
    let text := Utf8.encode (Value.object
      [("note", .list [.null, .list []]),
        ("procDebugInfo", .list [.object [("locals", .list [.object [("name", .text "count")]]),
          ("name", .text "main"), ("idx", .natural 0)]]),
        ("breakpoints", .list [.object [("placed", .bool true), ("binAddr", .natural 0x2100),
          ("id", .natural 1)]])]).chars
    Format.record members m text ∧ Blanks [0x0a] ∧ ofJson (text ++ [0x0a]) = .ok m := by
  intro m text
  let v : LocalVariable := ⟨"count", none⟩
  let p : Procedure := ⟨0, "main", [v], [], none, none⟩
  let b : Breakpoint := ⟨1, 0x2100, []⟩
  have hv : Format.record LocalVariable.members v
      (Utf8.encode (Value.object [("name", .text "count")]).chars) := by
    refine Format.record_chars ((v.fit.perm (List.reverse_perm _).symm).leaveOut ?_)
    simp [LocalVariable.members, Slot.required, Slot.defaulted, v]
  have hp : Format.record Procedure.members p (Utf8.encode (Value.object
      [("locals", .list [.object [("name", .text "count")]]), ("name", .text "main"),
        ("idx", .natural 0)]).chars) := by
    have hreversed := (p.fit.perm (List.reverse_perm _).symm)
    have hstart := hreversed.leaveOut (by
      simp [Procedure.members, Slot.required, Slot.defaulted, p])
    have hpad := hstart.leaveOut (by simp [Procedure.members, Slot.required, Slot.defaulted, p])
    have hcalls := hpad.leaveOut (by simp [Procedure.members, Slot.required, Slot.defaulted, p])
    refine Format.record_chars (hcalls.respell (by decide) ?_)
    simp only [Procedure.members, Slot.required, Slot.defaulted, List.forall_mem_cons]
    refine ⟨by simp, by simp, fun _ => Format.list_chars (.cons hv .nil), by simp⟩
  have hb : Format.record Breakpoint.members b (Utf8.encode (Value.object
      [("placed", .bool true), ("binAddr", .natural 0x2100), ("id", .natural 1)]).chars) := by
    have hreversed := (b.fit.perm (List.reverse_perm _).symm)
    have hsuccessors := hreversed.leaveOut (by
      simp [Breakpoint.members, Slot.required, Slot.defaulted, b])
    exact Format.record_chars (hsuccessors.add (by decide) .yes)
  have hm : Format.record members m text := by
    have hbreakpoints := m.fit.respell (by decide) (by
      simp only [members, Slot.required, Slot.defaulted, List.forall_mem_cons]
      exact ⟨fun _ => Format.list_chars (.cons hb .nil), by simp⟩)
    have hprocedures := (hbreakpoints.perm (List.reverse_perm _).symm).respell (by decide) (by
      simp only [members, Slot.required, Slot.defaulted, List.forall_mem_cons]
      exact ⟨by simp, fun _ => Format.list_chars (.cons hp .nil), by simp⟩)
    refine Format.record_chars (hprocedures.add (by decide) ?_)
    change IsValue
      (0x5b :: ((0x6e :: ull) ++ ([] ++ 0x2c :: ((0x5b :: ([] ++ [0x5d])) ++ ([] ++ [0x5d])))))
    exact .list (.nextItem .null blanks_nil (.lastItem (.emptyList blanks_nil) blanks_nil))
  have hblanks : Blanks [0x0a] := by simp [Blanks, isBlank]
  exact ⟨hm, hblanks, (ofJson_spelling m).2 text [0x0a] hm hblanks⟩

end Metadata

end BoardDebug
