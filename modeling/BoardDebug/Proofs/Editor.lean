import BoardDebug.Editor
import BoardDebug.Proofs.Json.Format

namespace BoardDebug

open Json

namespace Globals

/-- The names and their words, with a comma between any two. -/
theorem chars_toJson (globals : Globals) :
    globals.toJson.chars =
      '\x7b' :: ([','].intercalate (globals.map fun (name, word) =>
        quote name ++ ':' :: Nat.toDigits 10 word.toNat) ++ ['\x7d']) := by
  rw [toJson, Value.chars, memberChars_eq, List.map_map]
  rfl

theorem noControl_chars_toJson (globals : Globals) : NoControl globals.toJson.chars := by
  rw [toJson, Value.chars]
  refine noControl_cons.2 ⟨by decide, noControl_memberChars fun m hm => ?_⟩
  obtain ⟨⟨name, word⟩, -, rfl⟩ := List.mem_map.1 hm
  exact noControl_toDigits word.toNat

end Globals

namespace StepCommand

/-- What a message says of itself. -/
structure Label where
  type : String
  /-- Empty in a message that says none. -/
  subtype : String

def labels : Json.Record Draft Label where
  fields := record.fields
  unknown := .skipped
  blank := {}
  finish d := d.type.map fun type => ⟨type, d.subtype.getD ""⟩

theorem record_eq : record = labels.map fun label => ofNames label.type label.subtype := by
  simp only [Json.Record.map, labels, Option.map_map]
  rfl

/-- The members of a message that count. -/
def members : List (Slot Label) :=
  [.required "type" Label.type .text, .defaulted "subtype" Label.subtype .text ""]

def draft (label : Label) (names : List String) : Draft where
  type := given "type" names label.type
  subtype := given "subtype" names label.subtype

theorem fills : labels.Fills 0 draft members where
  unknown_eq := rfl
  blank_eq _ := rfl
  fields _ :=
    .cons (Field.required_fills reads_text (fun _ => rfl) fun _ => by simp [draft, given])
      (.cons (Field.defaulted_fills reads_text (fun _ => rfl) fun _ => by simp [draft, given]) .nil)
  finish_eq {label names} h := by
    simp only [members, Slot.required, Slot.defaulted, List.forall_mem_cons] at h
    obtain ⟨htype, hsubtype, -⟩ := h
    simp [labels, draft, given_eq_some htype, getD_given hsubtype]

/-- Members of an object give a type once, and a subtype at most once. -/
structure Names (type : String) (subtype : Option String) (found : List (String × Bytes)) :
    Prop where
  type_once : (found.map (·.1)).count "type" = 1
  subtype_once : (found.map (·.1)).count "subtype" = subtype.toList.length
  type_text : ∀ text, ("type", text) ∈ found → Format.text type text
  subtype_text : ∀ text, ("subtype", text) ∈ found → ∃ s ∈ subtype, Format.text s text
  other : ∀ name text, (name, text) ∈ found → name ≠ "type" → name ≠ "subtype" → IsValue text

/-- The texts of a message: objects with the members in any order, in any spelling. -/
def IsMessage (type : String) (subtype : Option String) (text : Bytes) : Prop :=
  ∃ ws found body ws', Blanks ws ∧ Names type subtype found ∧ Format.Members true found body ∧
    Blanks ws' ∧ text = ws ++ (0x7b :: body ++ ws')

theorem Names.fit {type : String} {subtype : Option String} {found : List (String × Bytes)}
    (h : Names type subtype found) : Slot.Fit members ⟨type, subtype.getD ""⟩ found where
  known := by
    simp only [members, Slot.required, Slot.defaulted, List.forall_mem_cons]
    refine ⟨h.type_text, fun text hmem => ?_, by simp⟩
    obtain ⟨s, hs, htext⟩ := h.subtype_text text hmem
    rw [Option.mem_def.1 hs]
    exact htext
  unknown name text hmem hname := by
    simp only [members, Slot.required, Slot.defaulted, List.map_cons, List.map_nil, List.mem_cons,
      List.not_mem_nil, or_false, not_or] at hname
    exact h.other name text hmem hname.1 hname.2
  once := by
    rw [List.nodup_iff_count_le_one]
    intro name
    by_cases hname : name = "type" ∨ name = "subtype"
    · refine Nat.le_trans (List.filter_sublist.count_le name) ?_
      obtain rfl | rfl := hname
      · exact Nat.le_of_eq h.type_once
      · rw [h.subtype_once]
        cases subtype <;> simp
    · rw [List.count_eq_zero.2 fun hmem => hname ?_]
      · exact Nat.zero_le 1
      · simpa [members, Slot.required, Slot.defaulted] using List.of_mem_filter hmem
  missing := by
    simp only [members, Slot.required, Slot.defaulted, List.forall_mem_cons]
    refine ⟨fun hnone => ?_, fun hnone => ?_, by simp⟩
    · have := h.type_once
      rw [List.count_eq_zero.2 hnone] at this
      cases this
    · have := h.subtype_once
      rw [List.count_eq_zero.2 hnone] at this
      cases subtype with
      | none => rfl
      | some s => cases this

/-- The command depends on the type and the subtype alone. -/
theorem parse_eq {type : String} {subtype : Option String} {text : Bytes}
    (h : IsMessage type subtype text) : parse text = .ok (ofNames type (subtype.getD "")) := by
  obtain ⟨ws, found, body, ws', hws, hnames, hbody, hws', rfl⟩ := h
  have hlabel : Format.record members ⟨type, subtype.getD ""⟩ (ws ++ 0x7b :: body) :=
    ⟨ws, _, hws, ⟨found, body, hnames.fit, hbody, rfl⟩, rfl⟩
  rw [parse, record_eq, Json.Record.decoder_map, Decoder.run_map, ← List.append_assoc,
    fills.reads.run_eq (by decide) hlabel hws']
  rfl

/-- A message is taken for what it says of itself, however that is spelled and whatever else is in
the message. A message that names no command is none, and no fault. -/
theorem parse_message {type : String} {subtype : Option String} {text : Bytes}
    (h : IsMessage type subtype text) :
    (parse text = .ok (some .stepOver) ↔ type = "debugger" ∧ subtype = some "stepover") ∧
    (parse text = .ok (some .stepInto) ↔ type = "debugger" ∧ subtype = some "stepinto") ∧
    (¬(type = "debugger" ∧ (subtype = some "stepover" ∨ subtype = some "stepinto")) →
      parse text = .ok none) := by
  rw [parse_eq h]
  by_cases htype : type = "debugger"
  · cases subtype with
    | none => simp [ofNames, htype]
    | some s =>
      by_cases hover : s = "stepover"
      · simp [ofNames, htype, hover]
      · by_cases hinto : s = "stepinto" <;> simp [ofNames, htype, hover, hinto]
  · simp [ofNames, htype]

/-- A message in which letters of a name and of the subtype are spelled by their numbers, behind
another member. -/
theorem parse_message_spelled :
    let text := Utf8.encode (" \x7b\"extra\":[[null]],\"subtype\":\"\\u0073tepinto\"," ++
      "\"\\u0074ype\" : \"debugger\"\x7d\n").toList
    IsMessage "debugger" (some "stepinto") text ∧ parse text = .ok (some .stepInto) := by
  intro text
  let quoted (body : Bytes) : Bytes := 0x22 :: (body ++ [0x22])
  let numbered (digits rest : String) : Bytes :=
    0x5c :: 0x75 :: (Utf8.encode digits.toList ++ Utf8.encode (rest.toList.flatMap escape))
  let extra : Bytes := 0x5b :: 0x5b :: 0x6e :: (ull ++ [0x5d, 0x5d])
  have hextra : IsValue extra :=
    .list (.lastItem (.list (.lastItem .null blanks_nil)) blanks_nil)
  have hinto : Spells "stepinto".toList (numbered "0073" "tepinto") :=
    .unit (by rfl : hex4? 0x30 0x30 0x37 0x33 = some 0x73) rfl rfl (spells_escape "tepinto".toList)
  have hname : Spells "type".toList (numbered "0074" "ype") :=
    .unit (by rfl : hex4? 0x30 0x30 0x37 0x34 = some 0x74) rfl rfl (spells_escape "ype".toList)
  have hblank : Blanks [0x20] := by simp [Blanks, isBlank]
  have hcomma : Format.Opens false [0x2c] := ⟨[], [], blanks_nil, blanks_nil, rfl⟩
  have hnames : Names "debugger" (some "stepinto") [("extra", extra),
      ("subtype", quoted (numbered "0073" "tepinto")),
      ("type", 0x20 :: quoted (Utf8.encode ("debugger".toList.flatMap escape)))] := by
    refine ⟨by decide, by decide, ?type, ?subtype, ?other⟩
    case type =>
      intro text hmem
      obtain rfl : text = _ := by simpa using hmem
      exact ⟨[0x20], _, hblank, ⟨_, spells_escape _, rfl⟩, rfl⟩
    case subtype =>
      intro text hmem
      obtain rfl : text = _ := by simpa using hmem
      exact ⟨_, rfl, Format.behindBlanks_of ⟨_, hinto, rfl⟩⟩
    case other =>
      intro name text hmem htype hsubtype
      obtain ⟨rfl, rfl⟩ : name = "extra" ∧ text = _ := by simpa [htype, hsubtype] using hmem
      exact hextra
  have hmessage : IsMessage "debugger" (some "stepinto") text := by
    refine ⟨[0x20], _, _, [0x0a], hblank, hnames,
      .member blanks_nil (spells_escape "extra".toList) blanks_nil
        (.member hcomma (spells_escape "subtype".toList) blanks_nil
          (.member hcomma hname hblank (.close blanks_nil))), by simp [Blanks, isBlank], ?_⟩
    decide +kernel
  exact ⟨hmessage, (parse_message hmessage).2.1.2 ⟨rfl, rfl⟩⟩

end StepCommand

namespace HaltMessage

/-- The members of a message without stack frames. -/
def members : List (Slot HaltMessage) :=
  [.required "type" (fun _ => ()) (.choice [("debugger", ())]),
    .required "subtype" (fun _ => ()) (.choice [("breakpoint", ())]),
    .required "breakpointId" breakpointId .word,
    .required "globals" globals Format.word.dictionary,
    .required "stackframes" frames (Format.list fun _ _ => False)]

def draft (m : HaltMessage) (names : List String) : Draft where
  type := given "type" names ()
  subtype := given "subtype" names ()
  breakpointId := given "breakpointId" names m.breakpointId
  globals := given "globals" names m.globals
  frames := given "stackframes" names m.frames

theorem fills : record.Fills 1 draft members where
  unknown_eq := rfl
  blank_eq _ := rfl
  fields m := by
    have hchoice (names : List (String × Unit)) := (reads_choice names).mono (Nat.zero_le 1)
    have hvalue : Reads 0 (fun _ _ => False) Decoder.value := by
      refine ⟨fun more bytes => ?_, False.elim, False.elim⟩
      rw [Decoder.value.eq_def, Decoder.value.eq_def, skipBlanks_skipBlanks]
    refine .cons ?_ (.cons ?_ (.cons ?_ (.cons ?_ (.cons ?_ .nil))))
    · exact Field.required_fills (hchoice _) (fun _ => rfl) fun _ => by simp [draft, given]
    · exact Field.required_fills (hchoice _) (fun _ => rfl) fun _ => by simp [draft, given]
    · exact Field.required_fills (reads_word.mono (Nat.zero_le 1)) (fun _ => rfl) fun _ => by
        simp [draft, given]
    · exact Field.required_fills reads_word.dictionary (fun _ => rfl) fun _ => by
        simp [draft, given]
    · exact Field.required_fills hvalue.list (fun _ => rfl) fun _ => by simp [draft, given]
  finish_eq {m names} h := by
    simp only [members, Slot.required, List.forall_mem_cons] at h
    obtain ⟨htype, hsubtype, hid, hglobals, hframes, -⟩ := h
    simp [record, draft, given_eq_some htype, given_eq_some hsubtype, given_eq_some hid,
      given_eq_some hglobals, given_eq_some hframes]

theorem fit (breakpointId : UInt32) {globals : Globals} (h : Sorted.Increasing globals) :
    Slot.Fit members (new breakpointId globals)
      [("type", Utf8.encode (Value.text "debugger").chars),
        ("subtype", Utf8.encode (Value.text "breakpoint").chars),
        ("breakpointId", Utf8.encode (ofWord breakpointId).chars),
        ("globals", Utf8.encode globals.toJson.chars),
        ("stackframes", Utf8.encode (Value.list []).chars)] := by
  refine Slot.fit_of_forall₂ (.cons ?_ (.cons ?_ (.cons ?_ (.cons ?_ (.cons ?_ .nil))))) (by decide)
  · exact ⟨rfl, Format.choice_chars rfl⟩
  · exact ⟨rfl, Format.choice_chars rfl⟩
  · exact ⟨rfl, Format.word_chars _⟩
  · exact ⟨rfl, Format.dictionary_chars Format.word_chars h⟩
  · exact ⟨rfl, Format.list_chars .nil⟩

theorem record_toJson (breakpointId : UInt32) {globals : Globals} (h : Sorted.Increasing globals) :
    Format.record members (new breakpointId globals)
      (Utf8.encode (new breakpointId globals).toJson.chars) :=
  Format.record_chars (fit breakpointId h)

theorem toList_line (breakpointId : UInt32) (globals : Globals) :
    (new breakpointId globals).line.toList =
      "\x7b\"type\":\"debugger\",\"subtype\":\"breakpoint\",\"breakpointId\":".toList ++
        (Nat.toDigits 10 breakpointId.toNat ++
          (",\"globals\":".toList ++
            (globals.toJson.chars ++ ",\"stackframes\":[]\x7d".toList))) := by
  rw [line, toList_render]
  simp [toJson, new, Value.chars, memberChars, itemChars, ofWord, quote, escape]

/-- Every halt is told in one line, whatever the names of the globals are. The line has them in the
order of their bytes, and all of the message is read back from it. -/
theorem line_faithful (breakpointId : UInt32) (pairs : List (String × UInt32)) :
    let globals : Globals := Sorted.ofList pairs
    let message := new breakpointId globals
    (∀ c ∈ message.line.toList, 0x20 ≤ c.toNat) ∧
    (∀ more, (message.line.toList ++ '\n' :: more).span (· ≠ '\n') =
      (message.line.toList, '\n' :: more)) ∧
    message.line.toList =
      "\x7b\"type\":\"debugger\",\"subtype\":\"breakpoint\",\"breakpointId\":".toList ++
        (Nat.toDigits 10 breakpointId.toNat ++ (",\"globals\":\x7b".toList ++ ([','].intercalate
          (globals.map fun (name, word) => quote name ++ ':' :: Nat.toDigits 10 word.toNat) ++
            "\x7d,\"stackframes\":[]\x7d".toList))) ∧
    globals.Pairwise (fun a b => Utf8.encode a.1.toList < Utf8.encode b.1.toList) ∧
    ofJson (Utf8.encode message.line.toList) = .ok message := by
  intro globals message
  have hglobals : Sorted.Increasing globals := Sorted.increasing_ofList pairs
  have hcontrol : NoControl message.line.toList := by
    simp only [message, toList_line, noControl_append]
    exact ⟨by decide, noControl_toDigits _, by decide, globals.noControl_chars_toJson, by decide⟩
  have hfeed : '\n' ∉ message.line.toList := fun hmem =>
    absurd (hcontrol '\n' hmem) (by decide)
  refine ⟨hcontrol, Text.span_ne_append hfeed, ?_, ?_, ?_⟩
  · rw [toList_line, Globals.chars_toJson]
    simp
  · exact hglobals.imp fun h => Utf8.encode_lt_encode h
  · have hread := fills.reads.run_eq (by decide) (record_toJson breakpointId hglobals) blanks_nil
    rw [List.append_nil] at hread
    rw [line, toList_render]
    exact hread

example : (new 7 (Sorted.ofList [("total", 3), ("a\"b", 1), ("\n", 2), ("total", 4)])).line =
    "\x7b\"type\":\"debugger\",\"subtype\":\"breakpoint\",\"breakpointId\":7,\"globals\":" ++
      "\x7b\"\\n\":2,\"a\\\"b\":1,\"total\":4\x7d,\"stackframes\":[]\x7d" := by
  decide +kernel

end HaltMessage

end BoardDebug
