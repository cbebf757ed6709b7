import BoardDebug.Proofs.Sorted
import BoardDebug.Settings.Sources

namespace BoardDebug

open Sorted (Increasing)

/-- In every object of a value the names increase, so that no name comes twice. -/
inductive Json.Value.IsTidy : Json.Value → Prop where
  | null : IsTidy .null
  | bool (b : Bool) : IsTidy (.bool b)
  | natural (n : Nat) : IsTidy (.natural n)
  | negative (n : Nat) : IsTidy (.negative n)
  | fraction (spelling : String) : IsTidy (.fraction spelling)
  | text (s : String) : IsTidy (.text s)
  | list {items : List Json.Value} (h : ∀ item ∈ items, IsTidy item) : IsTidy (.list items)
  | object {members : List (String × Json.Value)} (hnames : Increasing members)
      (h : ∀ member ∈ members, IsTidy member.2) : IsTidy (.object members)

open Json (Value)

theorem Json.Value.isTidy_list {items : List Value} :
    (Value.list items).IsTidy ↔ ∀ item ∈ items, item.IsTidy := by
  constructor
  · rintro ⟨⟩
    assumption
  · exact .list

namespace Layer

/-- The names increase, as do those of all tables in the layer. -/
def IsTidy (layer : Layer) : Prop :=
  Increasing layer ∧ ∀ member ∈ layer, member.2.IsTidy

variable {layer : Layer} {name : String} {value : Value}

theorem isTidy_object : (Value.object layer).IsTidy ↔ layer.IsTidy := by
  constructor
  · rintro ⟨⟩
    exact ⟨‹_›, ‹_›⟩
  · exact fun h => .object h.1 h.2

theorem isTidy_nil : IsTidy [] :=
  ⟨.nil, List.forall_mem_nil _⟩

theorem isTidy_single (h : value.IsTidy) : IsTidy [(name, value)] :=
  ⟨List.pairwise_singleton _ _, List.forall_mem_singleton.2 h⟩

theorem IsTidy.insert (h : layer.IsTidy) (hvalue : value.IsTidy) :
    IsTidy (Sorted.insert name value layer) := by
  refine ⟨Sorted.increasing_insert h.1, fun member hmember => ?_⟩
  obtain rfl | ⟨-, hmember⟩ := (Sorted.mem_insert h.1).1 hmember
  · exact hvalue
  · exact h.2 member hmember

theorem isTidy_ofList (h : ∀ member ∈ layer, member.2.IsTidy) : IsTidy (Sorted.ofList layer) := by
  induction layer using List.reverseRecOn with
  | nil => exact isTidy_nil
  | append_singleton members last ih =>
    rw [Sorted.ofList_concat]
    exact (ih fun member hmember => h member (List.mem_append_left _ hmember)).insert
      (h last (by simp))

theorem IsTidy.find? (h : layer.IsTidy) (hfound : Sorted.find? name layer = some value) :
    value.IsTidy :=
  h.2 (name, value) ((Sorted.find?_eq_some h.1).1 hfound)

theorem isTidy_ofPath (path : List String) (h : value.IsTidy) :
    (ofPath path value).IsTidy := by
  induction path with
  | nil => exact h
  | cons name path ih => exact isTidy_object.2 (isTidy_single ih)

/-! ### What a file means -/

variable {members : Layer} {items found : List Value}

theorem isTidy_of_meaning? (h : members.IsTidy) (hmeaning : meaning? members = some value) :
    value.IsTidy := by
  rw [meaning?] at hmeaning
  simp only [Option.ite_none_right_eq_some] at hmeaning
  obtain ⟨-, hmeaning⟩ := hmeaning
  split at hmeaning
  case h_1 hfound =>
    cases hmeaning
    exact h.find? hfound
  case h_2 =>
    cases hmeaning
    exact isTidy_object.2
      ⟨h.1.filter _, fun member hmember => h.2 member (List.mem_filter.1 hmember).1⟩

theorem forall_of_itemsOf? {P : Value → Prop}
    (hitems : ∀ item ∈ items, ∀ value, valueOf? item = some value → P value)
    (h : itemsOf? items = some found) : ∀ value ∈ found, P value := by
  induction items generalizing found with
  | nil =>
    cases h
    exact List.forall_mem_nil _
  | cons first rest ih =>
    obtain ⟨hfirst, hrest⟩ := List.forall_mem_cons.1 hitems
    simp only [itemsOf?, Option.bind_eq_bind, Option.bind_eq_some_iff] at h
    obtain ⟨value, hvalue, more, hmore, ⟨⟩⟩ := h
    exact List.forall_mem_cons.2 ⟨hfirst value hvalue, ih hrest hmore⟩

/-- What is meant by the members of a file has their names, and values that they mean. -/
theorem forall_of_ofMembers? {P : Value → Prop}
    (hmembers : ∀ member ∈ members, ∀ value, valueOf? member.2 = some value → P value)
    (h : ofMembers? members = some layer) :
    layer.map (·.1) = members.map (·.1) ∧ ∀ member ∈ layer, P member.2 := by
  induction members generalizing layer with
  | nil =>
    cases h
    exact ⟨rfl, List.forall_mem_nil _⟩
  | cons first rest ih =>
    obtain ⟨hfirst, hrest⟩ := List.forall_mem_cons.1 hmembers
    simp only [ofMembers?, Option.bind_eq_bind, Option.bind_eq_some_iff] at h
    obtain ⟨value, hvalue, more, hmore, ⟨⟩⟩ := h
    obtain ⟨hnames, hvalues⟩ := ih hrest hmore
    exact ⟨by rw [List.map_cons, List.map_cons, hnames],
      List.forall_mem_cons.2 ⟨hfirst value hvalue, hvalues⟩⟩

theorem isTidy_of_each (hmembers : Increasing members)
    (hvalues : ∀ member ∈ members, ∀ value, valueOf? member.2 = some value → value.IsTidy)
    (h : ofMembers? members = some layer) : layer.IsTidy := by
  obtain ⟨hnames, hlayer⟩ := forall_of_ofMembers? hvalues h
  refine ⟨?_, hlayer⟩
  rw [Increasing, ← List.pairwise_map] at hmembers ⊢
  rwa [hnames]

theorem isTidy_of_valueOf? {read : Value} (h : read.IsTidy) :
    ∀ value, valueOf? read = some value → value.IsTidy := by
  induction h with
  | list h ih =>
    intro value hvalue
    obtain ⟨found, hfound, rfl⟩ := Option.map_eq_some_iff.1 hvalue
    exact .list (forall_of_itemsOf? ih hfound)
  | object hnames h ih =>
    intro value hvalue
    obtain ⟨layer, hlayer, hmeaning⟩ := Option.bind_eq_some_iff.1 hvalue
    exact isTidy_of_meaning? (isTidy_of_each hnames ih hlayer) hmeaning
  | _ =>
    rintro value ⟨⟩
    constructor

theorem isTidy_of_ofMembers? (hmembers : members.IsTidy) (h : ofMembers? members = some layer) :
    layer.IsTidy :=
  isTidy_of_each hmembers.1
    (fun member hmember => isTidy_of_valueOf? (hmembers.2 member hmember)) h

end Layer

/-! ### Readers -/

/-- All that a reader gives has a property. -/
def Yields {σ α : Type} (read : StateT σ Option α) (P : α → Prop) : Prop :=
  ∀ before a after, read before = some (a, after) → P a

namespace Yields

variable {σ α β : Type} {read other : StateT σ Option α} {next : α → StateT σ Option β}
  {P : α → Prop} {Q : β → Prop} {a : α}

theorem pure (h : P a) : Yields (Pure.pure a : StateT σ Option α) P := by
  rintro before _ _ ⟨⟩
  exact h

theorem failure : Yields (failure : StateT σ Option α) P := by
  rintro before _ _ ⟨⟩

theorem any : Yields read fun _ => True :=
  fun _ _ _ _ => trivial

theorem bind (h : Yields read P) (hnext : ∀ a, P a → Yields (next a) Q) :
    Yields (read >>= next) Q := by
  intro before b after hrun
  obtain ⟨⟨a, between⟩, hread, hrest⟩ := Option.bind_eq_some_iff.1 hrun
  exact hnext a (h _ _ _ hread) _ _ _ hrest

/-- What was read before does not matter. -/
theorem after (hnext : ∀ a, Yields (next a) Q) : Yields (read >>= next) Q :=
  any.bind fun a _ => hnext a

theorem orElse (h : Yields read P) (hother : Yields other P) : Yields (read <|> other) P := by
  intro before a after hrun
  have hrun : (read before <|> other before) = some (a, after) := hrun
  cases hread : read before with
  | some pair =>
    rw [hread] at hrun
    exact h _ _ _ (hread.trans hrun)
  | none =>
    rw [hread] at hrun
    exact hother _ _ _ hrun

theorem mapM {γ : Type} {items : List γ} {read : γ → StateT σ Option α}
    (h : ∀ item ∈ items, Yields (read item) P) :
    Yields (items.mapM read) fun found => ∀ a ∈ found, P a := by
  induction items with
  | nil => exact .pure (List.forall_mem_nil _)
  | cons first rest ih =>
    obtain ⟨hfirst, hrest⟩ := List.forall_mem_cons.1 h
    rw [List.mapM_cons]
    refine hfirst.bind fun a ha => (ih hrest).bind fun found hfound => ?_
    exact .pure (List.forall_mem_cons.2 ⟨ha, hfound⟩)

theorem lift {found : Option α} (h : ∀ a, found = some a → P a) :
    Yields (liftM found : StateT σ Option α) P := by
  intro before a after hrun
  obtain ⟨a, hfound, ⟨⟩⟩ := Option.bind_eq_some_iff.1 hrun
  exact h a hfound

theorem of_run {before : σ} (h : Yields read P) (hrun : read.run' before = some a) : P a := by
  obtain ⟨pair, hpair, rfl⟩ := Option.map_eq_some_iff.1 hrun
  exact h _ _ _ hpair

theorem of_whole {scan : Text.Scan α} {text : List Char}
    (h : Yields scan P) (hwhole : Text.Scan.whole scan text = some a) : P a := by
  unfold Text.Scan.whole at hwhole
  split at hwhole
  case h_1 hrun =>
    cases hwhole
    exact h _ _ _ hrun
  case h_2 => cases hwhole

end Yields

namespace Json

theorem bind_eq_ok {α β : Type} {read : Except Fault α} {next : α → Except Fault β} {b : β} :
    read >>= next = .ok b ↔ ∃ a, read = .ok a ∧ next a = .ok b := by
  cases read <;> simp [bind, Except.bind]

theorem map_eq_ok {α β : Type} {read : Except Fault α} {f : α → β} {b : β} :
    read.map f = .ok b ↔ ∃ a, read = .ok a ∧ f a = b := by
  cases read <;> simp [Except.map]

namespace Decoder

variable {α : Type} {P : α → Prop} {read : Bytes → Except Fault (α × Bytes)} {fuel depth : Nat}
  {isFirst : Bool} {bytes rest : Bytes}

theorem forall_of_items (hread : ∀ bytes a rest, read bytes = .ok (a, rest) → P a)
    {found : List α} (h : items read fuel isFirst bytes = .ok (found, rest)) :
    ∀ a ∈ found, P a := by
  induction fuel generalizing isFirst bytes found rest with
  | zero => cases h
  | succ fuel ih =>
    unfold items at h
    split at h
    case h_1 => cases h
    case h_2 =>
      cases h
      exact List.forall_mem_nil _
    case h_3 =>
      split at h
      case h_1 => cases h
      case h_2 hitem =>
        split at h
        case h_1 => cases h
        case h_2 hmore =>
          cases h
          exact List.forall_mem_cons.2 ⟨hread _ _ _ hitem, ih hmore⟩

theorem forall_of_members (hread : ∀ bytes a rest, read bytes = .ok (a, rest) → P a)
    {found : List (String × α)} (h : members read fuel isFirst bytes = .ok (found, rest)) :
    ∀ member ∈ found, P member.2 := by
  induction fuel generalizing isFirst bytes found rest with
  | zero => cases h
  | succ fuel ih =>
    unfold members at h
    split at h
    case h_1 => cases h
    case h_2 =>
      cases h
      exact List.forall_mem_nil _
    case h_3 =>
      simp only [bind_eq_ok] at h
      obtain ⟨start, -, ⟨a, afterwards⟩, hmember, ⟨more, left⟩, hmore, ⟨⟩⟩ := h
      exact List.forall_mem_cons.2 ⟨hread _ _ _ hmember, ih hmore⟩

theorem isTidy_ofNumber (read : Number × Bytes) : (value.ofNumber read).1.IsTidy := by
  obtain ⟨n, rest⟩ := read
  cases n <;> constructor

/-- Whatever is read, objects come out sorted. -/
theorem isTidy_of_value {found : Value} (h : value depth bytes = .ok (found, rest)) :
    found.IsTidy := by
  induction depth using Nat.strongRecOn generalizing bytes found rest with
  | ind depth ih =>
    unfold value at h
    split at h
    case h_1 => cases h
    case h_2 =>
      split_ifs at h
      · obtain ⟨_, -, ⟨⟩⟩ := map_eq_ok.1 h
        exact .null
      · obtain ⟨_, -, ⟨⟩⟩ := map_eq_ok.1 h
        exact .bool true
      · obtain ⟨_, -, ⟨⟩⟩ := map_eq_ok.1 h
        exact .bool false
      · obtain ⟨number, -, hnumber⟩ := map_eq_ok.1 h
        simpa only [hnumber] using isTidy_ofNumber number
      · obtain ⟨number, -, hnumber⟩ := map_eq_ok.1 h
        simpa only [hnumber] using isTidy_ofNumber number
      · obtain ⟨_, -, ⟨⟩⟩ := map_eq_ok.1 h
        exact .text _
      · cases depth with
        | zero => cases h
        | succ depth =>
          simp only [bind_eq_ok] at h
          obtain ⟨⟨items, afterwards⟩, hitems, left, -, ⟨⟩⟩ := h
          exact .list (forall_of_items (fun _ _ _ => ih depth depth.lt_succ_self) hitems)
      · cases depth with
        | zero => cases h
        | succ depth =>
          simp only [bind_eq_ok] at h
          obtain ⟨⟨members, afterwards⟩, hmembers, left, -, ⟨⟩⟩ := h
          exact Layer.isTidy_object.2 (Layer.isTidy_ofList
            (forall_of_members (fun _ _ _ => ih depth depth.lt_succ_self) hmembers))

end Decoder

theorem isTidy_of_run {bytes : Bytes} {found : Value} (h : Decoder.value.run bytes = .ok found) :
    found.IsTidy := by
  unfold Decoder.run at h
  split at h
  case h_1 => cases h
  case h_2 hread =>
    split at h
    case h_1 =>
      cases h
      exact Decoder.isTidy_of_value hread
    case h_2 => cases h

end Json

namespace Toml

variable {text : List Char} {found : Value}

theorem isTidy_of_ofNatural {n : Nat} (h : ofNatural n = some found) : found.IsTidy := by
  obtain ⟨-, h⟩ := Option.ite_none_right_eq_some.1 h
  cases h
  exact .natural n

theorem isTidy_of_integer? (h : integer? text = some found) : found.IsTidy := by
  unfold integer? at h
  split at h
  case h_5 =>
    split at h
    case h_1 =>
      cases h
      exact .natural 0
    case h_2 n _ _ =>
      obtain ⟨-, h⟩ := Option.ite_none_right_eq_some.1 h
      cases h
      exact .negative n
    case h_3 => cases h
  all_goals
    obtain ⟨n, -, h⟩ := Option.bind_eq_some_iff.1 h
    exact isTidy_of_ofNatural h

theorem isTidy_of_word? (h : word? text = some found) : found.IsTidy := by
  unfold word? at h
  split_ifs at h
  · cases h
    exact .bool true
  · cases h
    exact .bool false
  · split at h
    case h_1 hinteger =>
      cases h
      exact isTidy_of_integer? hinteger
    case h_2 =>
      obtain ⟨-, h⟩ := Option.ite_none_right_eq_some.1 h
      cases h
      exact .fraction _

open Text (Scan)

theorem yields_word : Yields word Value.IsTidy := by
  refine .after fun text => ?_
  split
  case h_1 hfound => exact .pure (isTidy_of_word? hfound)
  case h_2 => exact .failure

theorem yields_moment : Yields moment Value.IsTidy := by
  refine .after fun before => .after fun _ => .after fun text => .pure ?_
  exact Layer.isTidy_object.2 (Layer.isTidy_single (.text _))

namespace Table

variable {t inner : Table} {name : String} {entry : Entry} {path : List String}

/-- What stands in a table so far is tidy. -/
def IsTidy (t : Table) : Prop :=
  Layer.IsTidy t.toMembers

theorem memberValues_eq (entries : List (String × Entry)) :
    memberValues entries = entries.map fun pair => (pair.1, pair.2.toValue) := by
  induction entries with
  | nil => rfl
  | cons first rest ih => rw [memberValues, ih, List.map_cons]

theorem listValues_eq (ts : List Table) : listValues ts = ts.map fun t => .object t.toMembers := by
  induction ts with
  | nil => rfl
  | cons first rest ih => rw [listValues, ih, List.map_cons]

theorem isTidy_empty (opening : Opening) : (empty opening).IsTidy :=
  Layer.isTidy_nil

theorem toMembers_set : (t.set name entry).toMembers =
    Sorted.insert name entry.toValue t.toMembers := by
  obtain ⟨opening, entries⟩ := t
  change memberValues (Sorted.insert name entry entries) = _
  rw [Table.toMembers, memberValues_eq, memberValues_eq, Sorted.insert_map]

theorem IsTidy.set (h : t.IsTidy) (hentry : entry.toValue.IsTidy) : (t.set name entry).IsTidy := by
  rw [IsTidy, toMembers_set]
  exact Layer.IsTidy.insert h hentry

theorem IsTidy.find? (h : t.IsTidy) (hfound : Sorted.find? name t.entries = some entry) :
    entry.toValue.IsTidy := by
  obtain ⟨opening, entries⟩ := t
  have hvalue : Sorted.find? name (memberValues entries) = some entry.toValue := by
    rw [memberValues_eq, Sorted.find?_map]
    exact congrArg (Option.map Entry.toValue) hfound
  exact Layer.IsTidy.find? h hvalue

theorem isTidy_table : (Entry.table t).toValue.IsTidy ↔ t.IsTidy := by
  rw [Entry.toValue, Layer.isTidy_object, IsTidy]

theorem isTidy_tables {ts : List Table} :
    (Entry.tables ts).toValue.IsTidy ↔ ∀ t ∈ ts, t.IsTidy := by
  rw [Entry.toValue, listValues_eq, Value.isTidy_list, List.forall_mem_map]
  exact forall₂_congr fun t _ => Layer.isTidy_object

/-- A change deep inside keeps a table tidy if it keeps tidy what it changes. -/
theorem IsTidy.changeAt {opened : Opening} {change : Table → Option Table}
    (hchange : ∀ t changed, t.IsTidy → change t = some changed → changed.IsTidy)
    (h : t.IsTidy) {changed : Table} (hresult : t.changeAt opened change path = some changed) :
    changed.IsTidy := by
  induction path generalizing t changed with
  | nil => exact hchange t changed h hresult
  | cons name path ih =>
    unfold Table.changeAt at hresult
    split at hresult
    case h_1 =>
      obtain ⟨inner, hinner, rfl⟩ := Option.map_eq_some_iff.1 hresult
      exact h.set (isTidy_table.2 (ih (isTidy_empty opened) hinner))
    case h_2 => cases hresult
    case h_3 old hold =>
      obtain ⟨-, hresult⟩ := Option.ite_none_left_eq_some.1 hresult
      obtain ⟨inner, hinner, rfl⟩ := Option.map_eq_some_iff.1 hresult
      exact h.set (isTidy_table.2 (ih (isTidy_table.1 (h.find? hold)) hinner))
    case h_4 olds holds =>
      have holds := isTidy_tables.1 (h.find? holds)
      split at hresult
      case h_1 old hold =>
        obtain ⟨inner, hinner, rfl⟩ := Option.map_eq_some_iff.1 hresult
        have hinner := ih (holds old (List.mem_of_getLast? hold)) hinner
        refine h.set (isTidy_tables.2 fun t ht => ?_)
        obtain ht | ht := List.mem_append.1 ht
        · exact holds t (List.dropLast_subset _ ht)
        · rwa [List.mem_singleton.1 ht]
      case h_2 => cases hresult

theorem IsTidy.put (h : t.IsTidy) {value : Value} (hvalue : value.IsTidy) {changed : Table}
    (hresult : t.put path value = some changed) : changed.IsTidy := by
  refine h.changeAt (fun inner changed hinner hchanged => ?_) hresult
  obtain ⟨-, hchanged⟩ := Option.ite_none_left_eq_some.1 hchanged
  split at hchanged
  case h_1 =>
    cases hchanged
    exact hinner.set hvalue
  case h_2 => cases hchanged

theorem IsTidy.openHeader (h : t.IsTidy) {changed : Table}
    (hresult : t.openHeader path = some changed) : changed.IsTidy := by
  refine h.changeAt (fun parent changed hparent hchanged => ?_) hresult
  dsimp only at hchanged
  split at hchanged
  case h_1 =>
    cases hchanged
    exact hparent.set (isTidy_table.2 (isTidy_empty _))
  case h_2 inner hinner =>
    obtain ⟨-, hchanged⟩ := Option.ite_none_right_eq_some.1 hchanged
    cases hchanged
    have hinner := isTidy_table.1 (hparent.find? hinner)
    obtain ⟨opening, entries⟩ := inner
    exact hparent.set (isTidy_table.2 hinner)
  case h_3 => cases hchanged

theorem IsTidy.openNext (h : t.IsTidy) {changed : Table}
    (hresult : t.openNext path = some changed) : changed.IsTidy := by
  refine h.changeAt (fun parent changed hparent hchanged => ?_) hresult
  have hempty := isTidy_empty .header
  dsimp only at hchanged
  split at hchanged
  case h_1 =>
    cases hchanged
    exact hparent.set (isTidy_tables.2 (List.forall_mem_singleton.2 hempty))
  case h_2 inners hinners =>
    cases hchanged
    refine hparent.set (isTidy_tables.2 (List.forall_mem_append.2
      ⟨isTidy_tables.1 (hparent.find? hinners), List.forall_mem_singleton.2 hempty⟩))
  case h_3 => cases hchanged

end Table

section Reading

variable {item : Scan Value} {depth : Nat}

theorem yields_arrayRest (h : Yields item Value.IsTidy) (fuel : Nat) :
    Yields (arrayRest item fuel) fun items => ∀ item ∈ items, item.IsTidy := by
  induction fuel with
  | zero => exact .failure
  | succ fuel ih =>
    refine .after fun _ => .after fun closed => ?_
    split
    · exact .pure (List.forall_mem_nil _)
    · refine h.bind fun first hfirst => .after fun _ => .after fun more => ?_
      split
      · exact ih.bind fun rest hrest => .pure (List.forall_mem_cons.2 ⟨hfirst, hrest⟩)
      · exact .after fun _ => .pure (List.forall_mem_singleton.2 hfirst)

theorem yields_inlineRest (h : Yields item Value.IsTidy) (fuel : Nat) {table : Table}
    (htable : table.IsTidy) : Yields (inlineRest item fuel table) Table.IsTidy := by
  induction fuel generalizing table with
  | zero => exact .failure
  | succ fuel ih =>
    refine .after fun path => .after fun _ => .after fun _ => h.bind fun value hvalue => ?_
    refine .after fun _ => ?_
    split
    case h_1 => exact .failure
    case h_2 changed hchanged =>
      have hchanged := htable.put hvalue hchanged
      refine .after fun more => ?_
      split
      · exact ih hchanged
      · exact .after fun _ => .pure hchanged

theorem yields_simple : Yields value.simple Value.IsTidy := by
  refine .after fun isQuoted => ?_
  split
  · exact .after fun s => .pure (.text s)
  · refine .after fun isLiteral => ?_
    split
    · exact .after fun s => .pure (.text s)
    · exact yields_moment.orElse yields_word

theorem yields_value (depth : Nat) : Yields (value depth) Value.IsTidy := by
  induction depth with
  | zero => exact yields_simple
  | succ depth ih =>
    refine .after fun text => .after fun isArray => ?_
    split
    · exact (yields_arrayRest ih _).bind fun items hitems => .pure (.list hitems)
    · refine .after fun isTable => ?_
      split
      · refine .after fun _ => .after fun closed => ?_
        split
        · exact .pure (Layer.isTidy_object.2 Layer.isTidy_nil)
        · exact (yields_inlineRest ih _ (Table.isTidy_empty _)).bind fun table htable =>
            .pure (Layer.isTidy_object.2 htable)
      · exact yields_simple

/-- The value that a line gives, if it gives one, is tidy. -/
def Line.IsTidy (line : Line) : Prop :=
  ∀ path value, line = .pair path value → value.IsTidy

theorem yields_line : Yields line Line.IsTidy := by
  refine .after fun isNext => ?_
  split
  · refine .after fun path => .after fun closed => ?_
    split
    · exact .pure (by rintro _ _ ⟨⟩)
    · exact .failure
  · refine .after fun isHeader => ?_
    split
    · exact .after fun path => .after fun _ => .pure (by rintro _ _ ⟨⟩)
    · refine .after fun path => .after fun _ => .after fun _ => ?_
      refine (yields_value maxDepth).bind fun value hvalue => .pure ?_
      rintro _ _ ⟨⟩
      exact hvalue

theorem yields_document (fuel : Nat) :
    Yields (document fuel) fun lines => ∀ line ∈ lines, line.IsTidy := by
  induction fuel with
  | zero => exact .failure
  | succ fuel ih =>
    refine .after fun _ => .after fun text => ?_
    split
    · exact .pure (List.forall_mem_nil _)
    · refine yields_line.bind fun first hfirst => .after fun _ => .after fun _ => ?_
      refine .after fun isBroken => ?_
      split
      · exact ih.bind fun rest hrest => .pure (List.forall_mem_cons.2 ⟨hfirst, hrest⟩)
      · refine .after fun rest => ?_
        split
        · exact .pure (List.forall_mem_singleton.2 hfirst)
        · exact .failure

end Reading

theorem Draft.isTidy_add {d after : Draft} {line : Line} (h : d.table.IsTidy) (hline : line.IsTidy)
    (hafter : d.add line = some after) : after.table.IsTidy := by
  cases line with
  | header path =>
    obtain ⟨table, htable, rfl⟩ := Option.map_eq_some_iff.1 hafter
    exact h.openHeader htable
  | nextHeader path =>
    obtain ⟨table, htable, rfl⟩ := Option.map_eq_some_iff.1 hafter
    exact h.openNext htable
  | pair path value =>
    obtain ⟨table, htable, rfl⟩ := Option.map_eq_some_iff.1 hafter
    exact h.changeAt (fun _ _ hinner => hinner.put (hline path value rfl)) htable

theorem isTidy_of_foldlM {lines : List Line} {d after : Draft} (h : d.table.IsTidy)
    (hlines : ∀ line ∈ lines, line.IsTidy) (hafter : lines.foldlM Draft.add d = some after) :
    after.table.IsTidy := by
  induction lines generalizing d with
  | nil =>
    cases hafter
    exact h
  | cons first rest ih =>
    obtain ⟨hfirst, hrest⟩ := List.forall_mem_cons.1 hlines
    rw [List.foldlM_cons] at hafter
    obtain ⟨next, hnext, hafter⟩ := Option.bind_eq_some_iff.1 hafter
    exact ih (Draft.isTidy_add h hfirst hnext) hrest hafter

theorem isTidy_of_parse {members : Layer} (h : parse text = some members) : members.IsTidy := by
  simp only [parse, Option.bind_eq_bind, Option.bind_eq_some_iff] at h
  obtain ⟨lines, hlines, draft, hdraft, ⟨⟩⟩ := h
  exact isTidy_of_foldlM (Table.isTidy_empty _) ((yields_document _).of_whole hlines) hdraft

end Toml

namespace Yaml

namespace Scalar

variable {text : String} {found : Value}

theorem isTidy_of_int? {text : List Char} (h : int? text = some found) : found.IsTidy := by
  unfold int? at h
  dsimp only at h
  split at h
  case h_1 =>
    split at h
    case h_1 => cases h
    case h_2 =>
      cases h
      exact .natural 0
    case h_3 =>
      split_ifs at h
      · cases h
        exact .negative _
      · cases h
        exact .fraction _
  case h_2 =>
    split at h
    case h_1 => cases h
    case h_2 =>
      split_ifs at h
      · cases h
        exact .natural _
      · cases h
        exact .fraction _

theorem isTidy_plain (text : String) : (plain text).IsTidy := by
  unfold plain
  split
  · exact .null
  · split
    case h_1 => exact .bool _
    case h_2 hint => exact isTidy_of_int? hint
    case h_3 =>
      split
      · exact .fraction _
      · exact .text _

theorem isTidy_of_meaning? {tag : Option Bytes} {isPlain : Bool}
    (h : meaning? tag text isPlain = some found) : found.IsTidy := by
  unfold meaning? at h
  split at h
  case h_1 =>
    cases h
    split_ifs
    · exact isTidy_plain _
    · exact .text _
  case h_2 =>
    split_ifs at h
    · obtain ⟨b, -, rfl⟩ := Option.map_eq_some_iff.1 h
      exact .bool b
    · exact isTidy_of_int? h
    · cases h
      exact .fraction _
    · cases h
      exact .null
    · cases h
      exact isTidy_plain _
    · cases h
      exact .text _

end Scalar

theorem yields_members {root : Node} {depth : Nat}
    (h : ∀ node, Yields (value root depth node) Value.IsTidy) (pairs : List (Node × Node)) :
    Yields (value.members root depth pairs) Layer.IsTidy := by
  have hpair (pair : Node × Node) :
      Yields (do return (← keyName root pair.1, ← value root depth pair.2) : Meaning _)
        fun member => member.2.IsTidy :=
    .after fun name => (h pair.2).bind fun value hvalue => .pure hvalue
  rw [value.members]
  exact (Yields.mapM fun pair _ => hpair pair).bind fun members hmembers =>
    .pure (Layer.isTidy_ofList hmembers)

theorem yields_value (root : Node) (depth : Nat) (node : Node) :
    Yields (value root depth node) Value.IsTidy := by
  induction depth generalizing node with
  | zero =>
    unfold value
    refine .after fun node => ?_
    split
    case h_1 => exact .lift fun found => Scalar.isTidy_of_meaning?
    case h_2 => exact .failure
  | succ depth ih =>
    unfold value
    refine .after fun node => ?_
    split
    case h_1 => exact .lift fun found => Scalar.isTidy_of_meaning?
    case h_2 =>
      split
      · exact .failure
      · exact (Yields.mapM fun item _ => ih item).bind fun items hitems => .pure (.list hitems)
    case h_3 =>
      split
      · exact .failure
      · exact (yields_members ih _).bind fun members hmembers =>
          .pure (Layer.isTidy_object.2 hmembers)
    case h_4 => exact .failure

theorem isTidy_of_parse {text : List Char} {members : Layer} (h : parse text = some members) :
    members.IsTidy := by
  unfold parse at h
  split_ifs at h
  · cases h
  simp only [Option.bind_eq_bind, Option.bind_eq_some_iff] at h
  obtain ⟨tokens, -, document, -, h⟩ := h
  split at h
  case h_1 =>
    cases h
    exact Layer.isTidy_nil
  case h_2 =>
    split at h
    case h_1 =>
      cases h
      exact Layer.isTidy_nil
    case h_2 => exact (yields_members (yields_value _ _) _).of_run h
    case h_3 => cases h

end Yaml

namespace Environment

theorem isTidy_plain (text : List Char) : (plain text).IsTidy := by
  unfold plain
  split
  · exact .fraction _
  · split
    case h_1 => exact .natural _
    case h_2 =>
      split
      case h_1 => exact .natural 0
      case h_2 => exact .negative _
      case h_3 => exact .text _
    case h_3 => exact .text _

/-- One case for each of the four readers that call each other. -/
theorem yields_all (fuel : Nat) :
    Yields (value fuel) Value.IsTidy ∧ Yields (bareValue fuel) Value.IsTidy ∧
      Yields (list fuel) (fun items => ∀ item ∈ items, item.IsTidy) ∧
      Yields (table fuel) Layer.IsTidy := by
  induction fuel with
  | zero => exact ⟨.failure, .failure, .failure, .failure⟩
  | succ fuel ih =>
    obtain ⟨hvalue, hbare, hlist, htable⟩ := ih
    refine ⟨?_, ?_, ?_, ?_⟩
    · exact .after fun _ => hbare.bind fun value hvalue => .after fun _ => .pure hvalue
    · refine .after fun isTrue => ?_
      split
      · exact .pure (.bool true)
      refine .after fun isFalse => ?_
      split
      · exact .pure (.bool false)
      refine .after fun isTable => ?_
      split
      · exact htable.bind fun table htable => .pure (Layer.isTidy_object.2 htable)
      refine .after fun isList => ?_
      split
      · exact hlist.bind fun items hitems => .pure (.list hitems)
      refine .after fun isString => ?_
      split
      · exact .after fun s => .pure (.text s)
      refine .after fun isChar => ?_
      split
      · exact .after fun c => .after fun _ => .pure (.text _)
      · exact .after fun text => .pure (isTidy_plain _)
    · refine .after fun isClosed => ?_
      split
      · exact .pure (List.forall_mem_nil _)
      refine hvalue.bind fun item hitem => .after fun more => ?_
      split
      · exact hlist.bind fun rest hrest => .pure (List.forall_mem_cons.2 ⟨hitem, hrest⟩)
      · exact .after fun _ => .pure (List.forall_mem_singleton.2 hitem)
    · refine .after fun isClosed => ?_
      split
      · exact .pure Layer.isTidy_nil
      refine .after fun _ => .after fun name => .after fun _ => .after fun _ => ?_
      refine hvalue.bind fun item hitem => .after fun more => ?_
      split
      · refine htable.bind fun others hothers => .pure ?_
        split
        · exact hothers
        · exact hothers.insert hitem
      · exact .after fun _ => .pure (Layer.isTidy_single hitem)

theorem isTidy_parse (text : String) : (parse text).IsTidy := by
  dsimp only [parse]
  cases hwhole : Text.Scan.whole (value (2 * text.toList.length + 3)) text.toList with
  | none => exact .text text
  | some value => exact (yields_all _).1.of_whole hwhole

theorem isTidy_layer (name text : String) : (layer name text).IsTidy := by
  unfold layer
  split
  case h_1 path _ =>
    have htidy : (Layer.ofPath path (parse text)).IsTidy :=
      Layer.isTidy_ofPath path (isTidy_parse text)
    split
    case h_1 heq =>
      rw [heq] at htidy
      exact Layer.isTidy_object.1 htidy
    case h_2 => exact Layer.isTidy_nil
  case h_2 => exact Layer.isTidy_nil

end Environment

/-- All that a file says is tidy, whatever its format. -/
theorem SettingsFormat.isTidy_of_parse {format : SettingsFormat} {bytes : Bytes} {layer : Layer}
    (h : format.parse bytes = some layer) : layer.IsTidy := by
  obtain ⟨members, hmembers, hlayer⟩ := Option.bind_eq_some_iff.1 h
  refine Layer.isTidy_of_ofMembers? ?_ hlayer
  unfold members? at hmembers
  split at hmembers
  case h_1 => cases hmembers
  case h_2 text _ =>
    cases format with
    | toml => exact Toml.isTidy_of_parse hmembers
    | yaml => exact Yaml.isTidy_of_parse hmembers
    | json =>
      dsimp only at hmembers
      split at hmembers
      case h_1 hrun =>
        cases hmembers
        exact Layer.isTidy_object.1 (Json.isTidy_of_run hrun)
      case h_2 => cases hmembers

theorem Settings.isTidy_of_readFile {files : Files} {path : String} {layer : Layer}
    (h : readFile files path = some layer) : layer.IsTidy := by
  unfold readFile at h
  split at h
  case h_1 => exact SettingsFormat.isTidy_of_parse h
  case h_2 =>
    cases h
    exact Layer.isTidy_nil

end BoardDebug
