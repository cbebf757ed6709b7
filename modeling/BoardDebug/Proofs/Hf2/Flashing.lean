import BoardDebug.Proofs.Hf2.Matching
import BoardDebug.Proofs.Image.Pages

namespace BoardDebug

namespace Hf2

/-- One thing that is said to a device or done with it. -/
inductive Move where
  /-- A command that is answered. -/
  | ask (command : UInt32) (payload : Bytes)
  /-- A command that is not. -/
  | tell (command : UInt32)
  /-- The device is closed and opened again. -/
  | reopen
deriving DecidableEq

namespace Move

/-- Asks what runs on the device. -/
def inquiry : Move := .ask Command.binInfo []

/-- Writes a page. -/
def page (page : Page) : Move :=
  .ask Command.writeFlashPage (Word.bytes (.ofNat page.address) ++ page.data)

/-- Starts what was written. -/
def start : Move := .tell Command.resetIntoApp

/-- Brings a device into its bootloader, and asks again what runs on it. -/
def restart : List Move := [.tell Command.resetIntoBootloader, .reopen, inquiry]

/-- Writes an image on a device that describes itself so, and starts it. -/
def install (image : Image) (info : BinInfo) : List Move :=
  (image.pages info.pageSize.toNat).map page ++ [start, .reopen]

/-- Flashes an image on a device that has described itself so, as far as that says what to do. -/
def flash (image : Image) : List BinInfo → List Move
  | [] => [inquiry]
  | first :: later =>
    inquiry :: if first.mode = .bootloader then install image first else restart ++ again later
where
  again : List BinInfo → List Move
    | [] => []
    | second :: _ => install image second

/-- The part of it that comes before the pages. -/
def enter : List BinInfo → List Move
  | [] => [inquiry]
  | first :: _ => inquiry :: if first.mode = .bootloader then [] else restart

/-- The reports of a move; a command has the given tag. -/
def reports (tag : UInt16) : Move → List Bytes
  | ask command payload => outputReports (commandMessage command (tag &&& 0x7fff) payload)
  | tell command => outputReports (commandMessage command (tag &&& 0x7fff) [])
  | reopen => []

/-- The tag after that of a move. -/
def tagAfter (tag : UInt16) : Move → UInt16
  | ask _ _ => tag + 1
  | tell _ => tag + 1
  | reopen => tag

/-- The reports of moves, one after the other. -/
def allReports (tag : UInt16) : List Move → List Bytes
  | [] => []
  | move :: rest => move.reports tag ++ allReports (move.tagAfter tag) rest

variable {first second info : BinInfo} {later : List BinInfo}

theorem enter_of_eq (h : first.mode = .bootloader) : enter (first :: later) = [inquiry] := by
  rw [enter, if_pos h]

theorem enter_of_ne (h : first.mode ≠ .bootloader) :
    enter (first :: later) = inquiry :: restart := by
  rw [enter, if_neg h]

theorem enter_subset (infos : List BinInfo) : enter infos ⊆ inquiry :: restart := by
  intro move hmove
  cases infos with
  | nil =>
    obtain rfl := List.mem_singleton.1 hmove
    exact List.mem_cons_self
  | cons first later =>
    by_cases h : first.mode = .bootloader
    · rw [enter_of_eq h] at hmove
      obtain rfl := List.mem_singleton.1 hmove
      exact List.mem_cons_self
    · rwa [enter_of_ne h] at hmove

theorem flash_of_eq (image : Image) (h : first.mode = .bootloader) :
    flash image (first :: later) = enter (first :: later) ++ install image first := by
  rw [enter_of_eq h, flash, if_pos h]
  rfl

theorem flash_of_ne (image : Image) (h : first.mode ≠ .bootloader) :
    flash image (first :: later) = enter (first :: later) ++ flash.again image later := by
  rw [enter_of_ne h, flash, if_neg h]
  rfl

theorem enter_prefix_flash (image : Image) (infos : List BinInfo) :
    enter infos <+: flash image infos := by
  cases infos with
  | nil => exact List.prefix_rfl
  | cons first later =>
    by_cases h : first.mode = .bootloader
    · exact flash_of_eq image h ▸ List.prefix_append _ _
    · exact flash_of_ne image h ▸ List.prefix_append _ _

variable {χ : Type} [Channel χ]

/-- Makes a move. Only a command that is answered brings bytes. -/
def make (move : Move) (channel : χ) : Except LinkError Bytes × χ :=
  match move with
  | ask command payload => Channel.ask channel command payload
  | tell command =>
    let (result, channel) := Channel.tell channel command
    (result.map fun _ => [], channel)
  | reopen =>
    let (result, channel) := Channel.reopen channel
    (result.map fun _ => [], channel)

end Move

/-- A move, with the channel at the moment at which it is made. -/
structure Turn (χ : Type) where
  move : Move
  channel : χ

namespace Turn

variable {χ : Type} [Channel χ]

def result (turn : Turn χ) : Except LinkError Bytes :=
  (turn.move.make turn.channel).1

/-- What a device says about itself, if it was asked. -/
def described (turn : Turn χ) : Except LinkError BinInfo := do
  let reply ← turn.result
  (BinInfo.ofReply reply).mapError .malformed

/-- How a turn ends. A device also fails by a description of itself that cannot be read. -/
def outcome (turn : Turn χ) : Except LinkError Unit :=
  if turn.move = .inquiry then turn.described.map fun _ => () else turn.result.map fun _ => ()

def info? (turn : Turn χ) : Option BinInfo :=
  if turn.move = .inquiry then turn.described.toOption else none

/-- The moves of some turns. -/
def said (turns : List (Turn χ)) : List Move :=
  turns.map (·.move)

/-- What a device has said about itself, as far as it could be read. -/
def infos (turns : List (Turn χ)) : List BinInfo :=
  turns.filterMap info?

/-- Turns end with the first that fails, if any does, and how it fails is what comes of them. -/
def EndWith {α : Type} (turns : List (Turn χ)) : Except LinkError α → Prop
  | .ok _ => ∀ turn ∈ turns, turn.outcome = .ok ()
  | .error error => ∃ before turn, turns = before ++ [turn] ∧ turn.outcome = .error error ∧
      ∀ earlier ∈ before, earlier.outcome = .ok ()

theorem endWith_single {α : Type} {turn : Turn χ} {result : Except LinkError α}
    (h : turn.outcome = result.map fun _ => ()) : EndWith [turn] result := by
  cases result with
  | ok a => simpa [EndWith, Except.map] using h
  | error error => exact ⟨[], turn, rfl, by simpa [Except.map] using h, by simp⟩

/-- There is no turn after one that fails. -/
theorem EndWith.outcome_before {α : Type} {before after : List (Turn χ)} {turn : Turn χ}
    {result : Except LinkError α} (h : EndWith (before ++ turn :: after) result) :
    ∀ earlier ∈ before, earlier.outcome = .ok () := by
  intro earlier hearlier
  cases result with
  | ok a => exact h earlier (List.mem_append_left _ hearlier)
  | error error =>
    obtain ⟨others, last, hturns, -, hothers⟩ := h
    have hdrop := congrArg List.dropLast hturns
    rw [List.dropLast_append_cons, List.dropLast_concat] at hdrop
    exact hothers earlier (hdrop ▸ List.mem_append_left _ hearlier)

theorem EndWith.append {α : Type} {first later : List (Turn χ)} {result : Except LinkError α}
    (h : EndWith later result) (hfirst : ∀ turn ∈ first, turn.outcome = .ok ()) :
    EndWith (first ++ later) result := by
  cases result with
  | ok a => exact List.forall_mem_append.2 ⟨hfirst, h⟩
  | error error =>
    obtain ⟨before, turn, hlater, hturn, hbefore⟩ := h
    refine ⟨first ++ before, turn, ?_, hturn, List.forall_mem_append.2 ⟨hfirst, hbefore⟩⟩
    rw [hlater, List.append_assoc]

omit [Channel χ] in
theorem said_append (turns later : List (Turn χ)) :
    said (turns ++ later) = said turns ++ said later :=
  List.map_append

theorem infos_append (turns later : List (Turn χ)) :
    infos (turns ++ later) = infos turns ++ infos later :=
  List.filterMap_append

end Turn

namespace Dialogue

variable {α β χ : Type} [Channel χ]

/-- The turns of a dialogue with a device. -/
def turns : Dialogue α → χ → List (Turn χ)
  | done _, _ => []
  | ask command payload next, channel =>
    ⟨.ask command payload, channel⟩ ::
      match Channel.ask channel command payload with
      | (.ok reply, channel) => (next reply).turns channel
      | (.error _, _) => []
  | tell command next, channel =>
    ⟨.tell command, channel⟩ ::
      match Channel.tell channel command with
      | (.ok (), channel) => next.turns channel
      | (.error _, _) => []
  | reopen next, channel =>
    ⟨.reopen, channel⟩ ::
      match Channel.reopen channel with
      | (.ok (), channel) => next.turns channel
      | (.error _, _) => []

variable {f : α → Dialogue β} {dialogue : Dialogue α} {channel channel' : χ} {a : α}
  {error : LinkError}

theorem run_bind (dialogue : Dialogue α) (f : α → Dialogue β) (channel : χ) :
    (dialogue >>= f).run channel =
      match dialogue.run channel with
      | (.ok a, channel) => (f a).run channel
      | (.error error, channel) => (.error error, channel) := by
  change (Dialogue.bind f dialogue).run channel = _
  induction dialogue generalizing channel with
  | done result => cases result <;> rfl
  | ask command payload next ih =>
    simp only [Dialogue.bind, run]
    obtain ⟨result, channel⟩ := Channel.ask channel command payload
    cases result with
    | ok reply => exact ih reply channel
    | error error => rfl
  | tell command next ih =>
    simp only [Dialogue.bind, run]
    obtain ⟨result, channel⟩ := Channel.tell channel command
    cases result with
    | ok _ => exact ih channel
    | error error => rfl
  | reopen next ih =>
    simp only [Dialogue.bind, run]
    obtain ⟨result, channel⟩ := Channel.reopen channel
    cases result with
    | ok _ => exact ih channel
    | error error => rfl

theorem turns_bind (dialogue : Dialogue α) (f : α → Dialogue β) (channel : χ) :
    (dialogue >>= f).turns channel =
      dialogue.turns channel ++
        match dialogue.run channel with
        | (.ok a, channel) => (f a).turns channel
        | (.error _, _) => [] := by
  change (Dialogue.bind f dialogue).turns channel = _
  induction dialogue generalizing channel with
  | done result => cases result <;> rfl
  | ask command payload next ih =>
    simp only [Dialogue.bind, run, turns, List.cons_append, List.cons.injEq, true_and]
    obtain ⟨result, channel⟩ := Channel.ask channel command payload
    cases result with
    | ok reply => exact ih reply channel
    | error error => rfl
  | tell command next ih =>
    simp only [Dialogue.bind, run, turns, List.cons_append, List.cons.injEq, true_and]
    obtain ⟨result, channel⟩ := Channel.tell channel command
    cases result with
    | ok _ => exact ih channel
    | error error => rfl
  | reopen next ih =>
    simp only [Dialogue.bind, run, turns, List.cons_append, List.cons.injEq, true_and]
    obtain ⟨result, channel⟩ := Channel.reopen channel
    cases result with
    | ok _ => exact ih channel
    | error error => rfl

/-- Some moves are made up to the first that fails, and that is how the dialogue ends. -/
structure Follows (dialogue : Dialogue α) (channel : χ) (moves : List Move) : Prop where
  said : Turn.said (dialogue.turns channel) <+: moves
  all : ∀ a, (dialogue.run channel).1 = .ok a → Turn.said (dialogue.turns channel) = moves
  endWith : Turn.EndWith (dialogue.turns channel) (dialogue.run channel).1

theorem Follows.bind_of_error {moves longer : List Move} (h : dialogue.Follows channel moves)
    (hrun : dialogue.run channel = (.error error, channel')) (hlonger : moves <+: longer) :
    (dialogue >>= f).Follows channel longer := by
  have hturns : (dialogue >>= f).turns channel = dialogue.turns channel := by
    rw [turns_bind, hrun, List.append_nil]
  have hresult : ((dialogue >>= f).run channel).1 = .error error := by rw [run_bind, hrun]
  refine ⟨?_, ?_, ?_⟩
  · rw [hturns]
    exact h.said.trans hlonger
  · rw [hresult]
    rintro a ⟨⟩
  · have hend := h.endWith
    rw [hrun] at hend
    rw [hturns, hresult]
    exact hend

theorem Follows.bind_of_ok {moves later : List Move} (h : dialogue.Follows channel moves)
    (hrun : dialogue.run channel = (.ok a, channel')) (hnext : (f a).Follows channel' later) :
    (dialogue >>= f).Follows channel (moves ++ later) := by
  have hturns : (dialogue >>= f).turns channel =
      dialogue.turns channel ++ (f a).turns channel' := by
    rw [turns_bind, hrun]
  have hresult : (dialogue >>= f).run channel = (f a).run channel' := by rw [run_bind, hrun]
  have hfirst : Turn.said (dialogue.turns channel) = moves := h.all a (by rw [hrun])
  refine ⟨?_, ?_, ?_⟩
  · rw [hturns, Turn.said_append, hfirst]
    exact (List.prefix_append_right_inj _).2 hnext.said
  · intro b hb
    rw [hresult] at hb
    rw [hturns, Turn.said_append, hfirst, hnext.all b hb]
  · have hend := h.endWith
    rw [hrun] at hend
    rw [hturns, hresult]
    exact hnext.endWith.append hend

theorem Follows.bind {moves later : List Move} (h : dialogue.Follows channel moves)
    (hnext : ∀ a (channel' : χ), (f a).Follows channel' later) :
    (dialogue >>= f).Follows channel (moves ++ later) := by
  cases hrun : dialogue.run channel with
  | mk result channel' =>
    cases result with
    | error error => exact h.bind_of_error hrun (List.prefix_append _ _)
    | ok a => exact h.bind_of_ok hrun (hnext a channel')

theorem follows_done (channel : χ) (a : α) : (done (.ok a)).Follows channel [] :=
  ⟨List.prefix_rfl, fun _ _ => rfl, by simp [Turn.EndWith, turns, run]⟩

theorem Follows.of_turn (turn : Turn χ) (hturns : dialogue.turns channel = [turn])
    (hrun : turn.outcome = (dialogue.run channel).1.map fun _ => ()) :
    dialogue.Follows channel [turn.move] := by
  have hsaid : Turn.said (dialogue.turns channel) = [turn.move] := by rw [hturns]; rfl
  exact ⟨hsaid ▸ List.prefix_rfl, fun _ _ => hsaid, hturns ▸ Turn.endWith_single hrun⟩

theorem follows_request (channel : χ) {command : UInt32} (payload : Bytes)
    (hcommand : command ≠ Command.binInfo) :
    (request command payload).Follows channel [.ask command payload] := by
  refine Follows.of_turn ⟨.ask command payload, channel⟩ ?_ ?_
  · simp only [request, turns]
    split <;> rfl
  · rw [Turn.outcome, if_neg (by simp [Move.inquiry, hcommand])]
    simp only [Turn.result, Move.make, request, run]
    obtain ⟨result, channel'⟩ := Channel.ask channel command payload
    cases result <;> rfl

theorem follows_order (channel : χ) (command : UInt32) :
    (order command).Follows channel [.tell command] := by
  refine Follows.of_turn ⟨.tell command, channel⟩ ?_ ?_
  · simp only [order, turns]
    split <;> rfl
  · rw [Turn.outcome, if_neg (by simp [Move.inquiry])]
    simp only [Turn.result, Move.make, order, run]
    obtain ⟨result, channel'⟩ := Channel.tell channel command
    cases result <;> rfl

theorem follows_comeBack (channel : χ) : comeBack.Follows channel [.reopen] := by
  refine Follows.of_turn ⟨.reopen, channel⟩ ?_ ?_
  · simp only [comeBack, turns]
    split <;> rfl
  · rw [Turn.outcome, if_neg (by simp [Move.inquiry])]
    simp only [Turn.result, Move.make, comeBack, run]
    obtain ⟨result, channel'⟩ := Channel.reopen (χ := χ) channel
    cases result <;> rfl

theorem follows_writePages (channel : χ) (pages : List Page) :
    (writePages pages).Follows channel (pages.map Move.page) := by
  induction pages generalizing channel with
  | nil => exact follows_done channel ()
  | cons page pages ih =>
    have hpage : (request Command.writeFlashPage
        (Word.bytes (.ofNat page.address) ++ page.data)).Follows channel [.page page] :=
      follows_request channel _ (by decide)
    exact hpage.bind fun _ channel' => ih channel'

theorem follows_install (channel : χ) (image : Image) (info : BinInfo) : (do
    writePages (image.pages info.pageSize.toNat)
    order Command.resetIntoApp
    comeBack : Dialogue Unit).Follows channel (Move.install image info) :=
  (follows_writePages channel _).bind fun _ channel =>
    (follows_order channel _).bind fun _ channel => follows_comeBack channel

/-! What a device says about itself. -/

theorem binInfo_eq :
    binInfo = ask Command.binInfo [] fun reply => ofRead (BinInfo.ofReply reply) :=
  rfl

theorem turns_binInfo (channel : χ) : binInfo.turns channel = [⟨.inquiry, channel⟩] := by
  rw [binInfo_eq, turns]
  split
  case h_1 reply channel' _ =>
    cases hread : BinInfo.ofReply reply <;> rfl
  case h_2 => rfl

theorem run_binInfo (channel : χ) :
    (binInfo.run channel).1 = (Turn.mk .inquiry channel).described := by
  rw [binInfo_eq, run, Turn.described, Turn.result, Move.inquiry, Move.make]
  obtain ⟨result, channel'⟩ := Channel.ask channel Command.binInfo []
  cases result with
  | error error => rfl
  | ok reply =>
    change ((ofRead (BinInfo.ofReply reply)).run channel').1 =
      (BinInfo.ofReply reply).mapError .malformed
    cases BinInfo.ofReply reply <;> rfl

theorem follows_binInfo (channel : χ) : binInfo.Follows channel [.inquiry] :=
  Follows.of_turn ⟨.inquiry, channel⟩ (turns_binInfo channel)
    (by rw [run_binInfo, Turn.outcome, if_pos rfl])

/-- All that is heard about a device is what comes of a dialogue. -/
def Inquires (dialogue : Dialogue BinInfo) (channel : χ) : Prop :=
  Turn.infos (dialogue.turns channel) = (dialogue.run channel).1.toOption.toList

theorem inquires_binInfo (channel : χ) : binInfo.Inquires channel := by
  unfold Inquires
  rw [turns_binInfo, run_binInfo]
  cases hinfo : (Turn.mk .inquiry channel).described <;>
    simp [Turn.infos, Turn.info?, hinfo, Except.toOption]

/-- Who does not ask what runs on a device is not told. -/
theorem Follows.infos_eq_nil {moves : List Move} (h : dialogue.Follows channel moves)
    (hmoves : .inquiry ∉ moves) : Turn.infos (dialogue.turns channel) = [] := by
  refine List.filterMap_eq_nil_iff.2 fun turn hturn => if_neg fun hinquiry => hmoves ?_
  rw [← hinquiry]
  exact h.said.subset (List.mem_map_of_mem hturn)

theorem Follows.inquires_bind {moves : List Move} {f : α → Dialogue BinInfo}
    (h : dialogue.Follows channel moves) (hmoves : .inquiry ∉ moves)
    (hf : ∀ a (channel : χ), (f a).Inquires channel) : (dialogue >>= f).Inquires channel := by
  unfold Inquires
  rw [turns_bind, run_bind, Turn.infos_append, h.infos_eq_nil hmoves, List.nil_append]
  cases dialogue.run channel with
  | mk result channel' =>
    cases result with
    | ok a => exact hf a channel'
    | error error => rfl

theorem enterBootloader_eq : enterBootloader = binInfo >>= fun info =>
    if info.mode = .bootloader then pure info
    else order Command.resetIntoBootloader >>= fun _ => comeBack >>= fun _ => binInfo :=
  rfl

theorem follows_restart (channel : χ) :
    (order Command.resetIntoBootloader >>= fun _ => comeBack >>= fun _ => binInfo).Follows channel
      Move.restart :=
  (follows_order channel _).bind fun _ channel =>
    (follows_comeBack channel).bind fun _ channel => follows_binInfo channel

theorem inquires_restart (channel : χ) :
    (order Command.resetIntoBootloader >>= fun _ => comeBack >>= fun _ => binInfo).Inquires
      channel :=
  (follows_order channel _).inquires_bind (by simp [Move.inquiry]) fun _ channel =>
    (follows_comeBack channel).inquires_bind (by simp [Move.inquiry]) fun _ channel =>
      inquires_binInfo channel

/-- What a device has said about itself when it is ready for the pages, or has failed. -/
inductive Entered : List BinInfo → Except LinkError BinInfo → Prop where
  | unknown (error : LinkError) : Entered [] (.error error)
  | present {info : BinInfo} (hmode : info.mode = .bootloader) : Entered [info] (.ok info)
  | restarted {first : BinInfo} (result : Except LinkError BinInfo)
    (hmode : first.mode ≠ .bootloader) : Entered (first :: result.toOption.toList) result

theorem Entered.flash_eq {infos : List BinInfo} {info : BinInfo} (h : Entered infos (.ok info))
    (image : Image) : Move.flash image infos = Move.enter infos ++ Move.install image info := by
  cases h with
  | present hmode => exact Move.flash_of_eq image hmode
  | restarted _ hmode => exact Move.flash_of_ne image hmode

theorem Entered.getLast?_eq {infos : List BinInfo} {info : BinInfo} (h : Entered infos (.ok info)) :
    infos.getLast? = some info := by
  cases h with
  | present hmode => rfl
  | restarted _ hmode => rfl

theorem enterBootloader_enters (channel : χ) :
    Entered (Turn.infos (enterBootloader.turns channel)) (enterBootloader.run channel).1 ∧
      enterBootloader.Follows channel
        (Move.enter (Turn.infos (enterBootloader.turns channel))) := by
  have hask := follows_binInfo channel
  have hinfos : Turn.infos (binInfo.turns channel) = (binInfo.run channel).1.toOption.toList :=
    inquires_binInfo channel
  rw [enterBootloader_eq, turns_bind, run_bind, Turn.infos_append, hinfos]
  cases hrun : binInfo.run channel with
  | mk result channel' =>
    cases result with
    | error error => exact ⟨.unknown error, hask.bind_of_error hrun List.prefix_rfl⟩
    | ok info =>
      change Entered (info :: _) _ ∧ Follows _ channel (Move.enter (info :: _))
      by_cases hmode : info.mode = .bootloader
      · have hnext : (if info.mode = .bootloader then pure info
            else order Command.resetIntoBootloader >>= fun _ => comeBack >>= fun _ =>
              binInfo : Dialogue BinInfo).Follows channel' [] := by
          rw [if_pos hmode]
          exact follows_done channel' info
        simp only [if_pos hmode]
        refine ⟨.present hmode, ?_⟩
        rw [Move.enter_of_eq hmode]
        exact hask.bind_of_ok hrun hnext
      · have hnext : (if info.mode = .bootloader then pure info
            else order Command.resetIntoBootloader >>= fun _ => comeBack >>= fun _ =>
              binInfo : Dialogue BinInfo).Follows channel' Move.restart := by
          rw [if_neg hmode]
          exact follows_restart channel'
        have hrestart := inquires_restart channel'
        unfold Inquires at hrestart
        simp only [if_neg hmode]
        rw [hrestart]
        refine ⟨.restarted _ hmode, ?_⟩
        rw [Move.enter_of_ne hmode]
        exact hask.bind_of_ok hrun hnext

theorem flash_eq (image : Image) : flash image = enterBootloader >>= fun info =>
    writePages (image.pages info.pageSize.toNat) >>= fun _ =>
      order Command.resetIntoApp >>= fun _ => comeBack :=
  rfl

theorem inquiry_notMem_install (image : Image) (info : BinInfo) :
    Move.inquiry ∉ Move.install image info := by
  simp [Move.install, Move.inquiry, Move.page, Move.start, Command.writeFlashPage, Command.binInfo]

/-- A dialogue all of whose turns go well makes all of its moves. -/
theorem Follows.said_eq {moves : List Move} (h : dialogue.Follows channel moves)
    (hturns : ∀ turn ∈ dialogue.turns channel, turn.outcome = .ok ()) :
    Turn.said (dialogue.turns channel) = moves := by
  have hend := h.endWith
  cases hrun : (dialogue.run channel).1 with
  | ok a => exact h.all a hrun
  | error error =>
    rw [hrun] at hend
    obtain ⟨before, turn, heq, hturn, -⟩ := hend
    have hok := hturns turn (heq ▸ List.mem_append_right _ (List.mem_singleton.2 rfl))
    rw [hok] at hturn
    cases hturn

/-- An image is flashed in two parts, of which the second may be missing. -/
theorem exists_parts_flash (channel : χ) (image : Image) : ∃ entering installing,
    (flash image).turns channel = entering ++ installing ∧
    Turn.said entering <+: Move.enter (Turn.infos entering) ∧
    Turn.infos installing = [] ∧
    (flash image).Follows channel (Move.flash image (Turn.infos entering)) ∧
    ∃ result, Entered (Turn.infos entering) result ∧
      match result with
      | .ok info => Turn.said installing <+: Move.install image info ∧ installing ≠ []
      | .error error => installing = [] ∧ ((flash image).run channel).1 = .error error := by
  obtain ⟨hentered, henter⟩ := enterBootloader_enters channel
  have hturns := turns_bind enterBootloader (fun info =>
    writePages (image.pages info.pageSize.toNat) >>= fun _ =>
      order Command.resetIntoApp >>= fun _ => comeBack) channel
  rw [← flash_eq] at hturns
  cases hrun : enterBootloader.run channel with
  | mk result channel' =>
    rw [hrun] at hentered hturns
    cases result with
    | error error =>
      exact ⟨_, [], hturns, henter.said, rfl,
        henter.bind_of_error hrun (Move.enter_prefix_flash _ _), _, hentered, rfl,
        by rw [flash_eq, run_bind, hrun]⟩
    | ok info =>
      have hinstall := follows_install channel' image info
      have hflash : (flash image).Follows channel
          (Move.enter (Turn.infos (enterBootloader.turns channel)) ++ Move.install image info) :=
        henter.bind_of_ok hrun hinstall
      rw [← hentered.flash_eq image] at hflash
      refine ⟨_, _, hturns, henter.said, hinstall.infos_eq_nil (inquiry_notMem_install image info),
        hflash, _, hentered, hinstall.said, fun hnone => ?_⟩
      -- Who has nothing to write still starts what runs there.
      have hmoves := hinstall.said_eq (by simp [hnone])
      simp [hnone, Turn.said, Move.install] at hmoves

theorem follows_flash (channel : χ) (image : Image) : (flash image).Follows channel
    (Move.flash image (Turn.infos ((flash image).turns channel))) := by
  obtain ⟨entering, installing, hparts, -, hinfos, hfollows, -⟩ := exists_parts_flash channel image
  rwa [hparts, Turn.infos_append, hinfos, List.append_nil]

/-- An image that is flashed is written and started. -/
theorem said_flash_of_ok {image : Image} (hok : ((flash image).run channel).1 = .ok ()) :
    ∃ info, (Turn.infos ((flash image).turns channel)).getLast? = some info ∧
      Turn.said ((flash image).turns channel) =
        Move.enter (Turn.infos ((flash image).turns channel)) ++ Move.install image info := by
  obtain ⟨entering, installing, hparts, -, hinfos, hfollows, result, hentered, hrest⟩ :=
    exists_parts_flash channel image
  have hall : Turn.infos ((flash image).turns channel) = Turn.infos entering := by
    rw [hparts, Turn.infos_append, hinfos, List.append_nil]
  rw [hall]
  cases result with
  | error error =>
    rw [hrest.2] at hok
    cases hok
  | ok info => exact ⟨info, hentered.getLast?_eq, by rw [hfollows.all () hok, hentered.flash_eq]⟩

/-- A move that does not only bring a device into its bootloader comes when that has been done. -/
theorem exists_installing {image : Image} {before after : List (Turn χ)} {turn : Turn χ}
    (hturns : (flash image).turns channel = before ++ turn :: after)
    (hmove : turn.move ∉ Move.inquiry :: Move.restart) :
    ∃ info earlier, Entered (Turn.infos before) (.ok info) ∧
      Turn.infos ((flash image).turns channel) = Turn.infos before ∧ earlier <:+ before ∧
      Turn.said (earlier ++ turn :: after) <+: Move.install image info := by
  obtain ⟨entering, installing, hparts, henter, hinfos, -, result, hentered, hrest⟩ :=
    exists_parts_flash channel image
  -- The move belongs to the second part.
  obtain ⟨earlier, rfl, rfl⟩ : ∃ earlier, before = entering ++ earlier ∧
      installing = earlier ++ turn :: after := by
    obtain ⟨earlier, hbefore, hinstalling⟩ | ⟨later, hentering, hlater⟩ :=
      List.append_eq_append_iff.1 (hparts.symm.trans hturns)
    · exact ⟨earlier, hbefore, hinstalling⟩
    · cases later with
      | nil => exact ⟨[], by simpa using hentering.symm, hlater.symm⟩
      | cons first later =>
        obtain ⟨rfl, -⟩ := List.cons.inj hlater
        have hmem : turn.move ∈ Turn.said entering :=
          List.mem_map_of_mem (by simp [hentering])
        exact absurd (Move.enter_subset _ (henter.subset hmem)) hmove
  have hearlier : Turn.infos earlier = [] := by
    rw [Turn.infos_append] at hinfos
    exact (List.append_eq_nil_iff.1 hinfos).1
  rw [hparts, Turn.infos_append, Turn.infos_append, hinfos, hearlier]
  cases result with
  | error error => simp at hrest
  | ok info => exact ⟨info, earlier, by simpa using hentered, rfl, List.suffix_append _ _, hrest.1⟩

theorem page_notMem_enter (page : Page) : Move.page page ∉ Move.inquiry :: Move.restart := by
  simp [Move.page, Move.inquiry, Move.restart, Command.writeFlashPage, Command.binInfo]

/-- A page is written when the device has said how it can be. -/
theorem exists_info_of_page {image : Image} {before after : List (Turn χ)} {turn : Turn χ}
    {page : Page} (hturns : (flash image).turns channel = before ++ turn :: after)
    (hpage : turn.move = .page page) :
    ∃ info, Entered (Turn.infos before) (.ok info) ∧
      Turn.infos ((flash image).turns channel) = Turn.infos before ∧
      image.pages info.pageSize.toNat ≠ [] := by
  obtain ⟨info, earlier, hentered, hinfos, -, hsaid⟩ :=
    exists_installing hturns (hpage ▸ page_notMem_enter page)
  refine ⟨info, hentered, hinfos, fun hnone => ?_⟩
  have hmem : turn.move ∈ Move.install image info := hsaid.subset (List.mem_map_of_mem (by simp))
  simp [Move.install, hnone, hpage, Move.page, Move.start] at hmem

/-- A device that was asked a second time is not asked a third time: the first page follows. -/
theorem pages_eq_nil {image : Image} {first second : BinInfo}
    (hinfos : Turn.infos ((flash image).turns channel) = [first, second])
    (hnone : ∀ page, Move.page page ∉ Turn.said ((flash image).turns channel)) :
    image.pages second.pageSize.toNat = [] := by
  obtain ⟨entering, installing, hparts, -, hinstalling, -, result, hentered, hrest⟩ :=
    exists_parts_flash channel image
  rw [hparts, Turn.infos_append, hinstalling, List.append_nil] at hinfos
  rw [hinfos] at hentered
  rw [hparts] at hnone
  cases result with
  | error error =>
    generalize hknown : [first, second] = known at hentered
    cases hentered with
    | unknown => cases hknown
    | restarted _ _ => simp [Except.toOption] at hknown
  | ok info =>
    obtain rfl : second = info := Option.some.inj hentered.getLast?_eq
    obtain ⟨hsaid, hsome⟩ := hrest
    obtain ⟨turn, others, rfl⟩ := List.exists_cons_of_ne_nil hsome
    by_contra hpages
    obtain ⟨page, pages, hpages⟩ := List.exists_cons_of_ne_nil hpages
    unfold Move.install at hsaid
    rw [hpages] at hsaid
    obtain ⟨hmove, -⟩ := List.cons_prefix_cons.1 hsaid
    exact hnone page (hmove ▸ List.mem_map_of_mem (by simp))

end Dialogue

/-- What is not in a list comes after it. -/
theorem prefix_of_append_cons {α : Type} {x : α} {before after first rest : List α}
    (h : before ++ x :: after <+: first ++ rest) (hx : x ∉ first) : first <+: before := by
  obtain ⟨tail, htail⟩ := h
  rw [List.append_assoc] at htail
  obtain ⟨middle, hfirst, hmiddle⟩ | ⟨middle, hbefore, -⟩ := List.append_eq_append_iff.1 htail
  · cases middle with
    | nil => exact ⟨[], by simpa using hfirst⟩
    | cons y middle =>
      obtain ⟨rfl, -⟩ := List.cons.inj hmiddle
      exact absurd (by simp [hfirst]) hx
  · exact ⟨middle, hbefore.symm⟩

end Hf2

/-- A bus with all that was given to it to write. -/
structure Watched (β : Type) where
  bus : β
  /-- The reports, the last of which may have failed. -/
  written : List Bytes

namespace Watched

variable {β : Type} [UsbBus β]

instance : UsbBus (Watched β) where
  devices watched := UsbBus.devices watched.bus
  openDevice watched device :=
    (UsbBus.openDevice watched.bus device).map fun bus => { watched with bus }
  write watched report :=
    let (result, bus) := UsbBus.write watched.bus report
    (result, ⟨bus, watched.written ++ [report]⟩)
  receive watched :=
    let (arrivals, bus) := UsbBus.receive watched.bus
    (arrivals, { watched with bus })

/-- Reports are written from one state of a bus to a later one, all of them unless something
fails. -/
def Wrote {ε α : Type} (bus bus' : Watched β) (reports : List Bytes) (result : Except ε α) : Prop :=
  ∃ sent, bus'.written = bus.written ++ sent ∧ sent <+: reports ∧
    ∀ a, result = .ok a → sent = reports

variable {bus bus' : Watched β}

omit [UsbBus β] in
theorem wrote_nothing {ε α : Type} (h : bus'.written = bus.written) (result : Except ε α) :
    Wrote bus bus' [] result :=
  ⟨[], by rw [h, List.append_nil], List.prefix_rfl, fun _ _ => rfl⟩

theorem wrote_writeReports (bus : Watched β) (reports : List Bytes) :
    Wrote bus (Hf2Link.writeReports bus reports).2 reports
      (Hf2Link.writeReports bus reports).1 := by
  induction reports generalizing bus with
  | nil => exact wrote_nothing rfl _
  | cons report reports ih =>
    have hwritten : (UsbBus.write bus report).2.written = bus.written ++ [report] := rfl
    unfold Hf2Link.writeReports
    cases hwrite : UsbBus.write bus report with
    | mk result bus' =>
      rw [hwrite] at hwritten
      cases result with
      | error fault =>
        exact ⟨[report], hwritten, List.prefix_append [report] reports, by rintro a ⟨⟩⟩
      | ok _ =>
        obtain ⟨sent, hsent, hinit, hall⟩ := ih bus'
        refine ⟨report :: sent, ?_, (List.prefix_cons_inj report).2 hinit, ?_⟩
        · rw [hsent, hwritten, List.append_assoc]
          rfl
        · intro a ha
          rw [hall a ha]

omit [UsbBus β] in
theorem Wrote.mono {ε ε' α α' : Type} {reports : List Bytes} {result : Except ε α}
    {result' : Except ε' α'} (h : Wrote bus bus' reports result)
    (hresult : ∀ a', result' = .ok a' → ∃ a, result = .ok a) : Wrote bus bus' reports result' := by
  obtain ⟨sent, hsent, hinit, hall⟩ := h
  refine ⟨sent, hsent, hinit, fun a' ha' => ?_⟩
  obtain ⟨a, ha⟩ := hresult a' ha'
  exact hall a ha

omit [UsbBus β] in
/-- After a failure nothing more is written. -/
theorem Wrote.stop {ε ε' α α' : Type} {reports : List Bytes} {error : ε}
    (h : Wrote bus bus' reports (.error error : Except ε α)) (later : List Bytes) (error' : ε') :
    Wrote bus bus' (reports ++ later) (.error error' : Except ε' α') := by
  obtain ⟨sent, hsent, hinit, -⟩ := h
  exact ⟨sent, hsent, hinit.trans (List.prefix_append _ _), by rintro a ⟨⟩⟩

omit [UsbBus β] in
theorem Wrote.append {ε ε' α α' : Type} {bus'' : Watched β} {first later : List Bytes} {a : α}
    {result : Except ε' α'} (h : Wrote bus bus' first (.ok a : Except ε α))
    (hlater : Wrote bus' bus'' later result) : Wrote bus bus'' (first ++ later) result := by
  obtain ⟨sent, hsent, -, hall⟩ := h
  obtain ⟨more, hmore, hinit, hallLater⟩ := hlater
  obtain rfl := hall a rfl
  refine ⟨sent ++ more, ?_, (List.prefix_append_right_inj _).2 hinit, ?_⟩
  · rw [hmore, hsent, List.append_assoc]
  · intro b hb
    rw [hallLater b hb]

end Watched

namespace Hf2Link

open Hf2 Watched

variable {β : Type}

theorem take_keeps (link : Hf2Link β) (arrivals : List Arrival) :
    (link.take arrivals).bus = link.bus ∧ (link.take arrivals).nextTag = link.nextTag ∧
      (link.take arrivals).options = link.options := by
  induction arrivals generalizing link with
  | nil => exact ⟨rfl, rfl, rfl⟩
  | cons arrival arrivals ih =>
    cases arrival with
    | broken => exact ⟨rfl, rfl, rfl⟩
    | report bytes => exact ih _

variable [UsbBus β]

theorem exists_openDevice {options : Options} {bus bus' : β}
    (h : openDevice options bus = .ok bus') :
    ∃ device, UsbBus.openDevice bus device = .ok bus' := by
  unfold openDevice at h
  cases hdevices : UsbBus.devices bus with
  | error fault =>
    rw [hdevices] at h
    cases h
  | ok devices =>
    rw [hdevices] at h
    simp only [ofUsb, bind, Except.bind] at h
    split at h
    case h_1 => cases h
    case h_2 device _ =>
      refine ⟨device, ?_⟩
      cases hopen : UsbBus.openDevice bus device with
      | error fault =>
        simp only [hopen] at h
        cases h
      | ok opened =>
        simp only [hopen] at h
        cases h
        rfl

theorem written_openDevice {bus bus' : Watched β} {device : UsbDevice}
    (h : UsbBus.openDevice bus device = .ok bus') : bus'.written = bus.written := by
  change (UsbBus.openDevice bus.bus device).map (fun opened => { bus with bus := opened }) =
    .ok bus' at h
  cases hopen : UsbBus.openDevice bus.bus device with
  | error fault =>
    rw [hopen] at h
    cases h
  | ok opened =>
    rw [hopen] at h
    cases h
    rfl

theorem written_listen (link : Hf2Link (Watched β)) :
    link.listen.bus.written = link.bus.written := by
  unfold listen
  split
  · rw [(take_keeps _ _).1]
    rfl
  · rfl

theorem written_reopen (link : Hf2Link (Watched β)) :
    link.reopen.2.bus.written = link.bus.written := by
  unfold reopen
  dsimp only
  split
  · rfl
  · split
    case h_1 bus hopen =>
      obtain ⟨device, hdevice⟩ := exists_openDevice hopen
      exact written_openDevice hdevice
    case h_2 => rfl

theorem wrote_send (link : Hf2Link (Watched β)) (message : Bytes) :
    Wrote link.bus (link.send message).2.bus (outputReports message) (link.send message).1 := by
  unfold send
  split
  · have hwrote := wrote_writeReports link.bus (outputReports message)
    generalize writeReports link.bus (outputReports message) = written at hwrote ⊢
    obtain ⟨result, bus⟩ := written
    refine hwrote.mono fun a ha => ?_
    cases result with
    | ok _ => exact ⟨(), rfl⟩
    | error fault => cases ha
  · exact ⟨[], (List.append_nil _).symm, List.nil_prefix, by rintro a ⟨⟩⟩

omit [UsbBus β] in
/-- To stop waiting changes nothing else. -/
theorem conclude_snd (link : Hf2Link β) (command : UInt32) :
    (link.conclude command).2 = { link with exchange := link.exchange.release } := by
  unfold conclude
  split <;> rfl

theorem wrote_ask (link : Hf2Link (Watched β)) (command : UInt32) (payload : Bytes) :
    Wrote link.bus (link.ask command payload).2.bus
      ((Move.ask command payload).reports link.nextTag) (link.ask command payload).1 := by
  have hwrote : Wrote link.bus (link.asking command payload).2.bus
      ((Move.ask command payload).reports link.nextTag) (link.asking command payload).1 :=
    wrote_send (link.after (.request command)) _
  rw [ask_eq]
  generalize link.asking command payload = asked at hwrote ⊢
  obtain ⟨result, sent⟩ := asked
  cases result with
  | error error =>
    refine hwrote.mono fun a ha => ?_
    cases ha
  | ok _ =>
    obtain ⟨reports, hreports, hinit, hall⟩ := hwrote
    refine ⟨reports, ?_, hinit, fun _ _ => hall () rfl⟩
    rw [conclude_snd, ← hreports]
    exact written_listen sent

/-- A move writes its reports, all of them if it goes well. -/
theorem wrote_make (link : Hf2Link (Watched β)) (move : Move) :
    Wrote link.bus (move.make link).2.bus (move.reports link.nextTag) (move.make link).1 := by
  cases move with
  | ask command payload => exact wrote_ask link command payload
  | tell command =>
    have hwrote : Wrote link.bus (link.tell command).2.bus
        ((Move.tell command).reports link.nextTag) (link.tell command).1 :=
      wrote_send link.takeTag.2 _
    change Wrote link.bus (link.tell command).2.bus _ ((link.tell command).1.map fun _ => [])
    refine hwrote.mono fun reply hreply => ?_
    cases hresult : (link.tell command).1 with
    | ok _ => exact ⟨(), rfl⟩
    | error error =>
      rw [hresult] at hreply
      cases hreply
  | reopen => exact wrote_nothing (written_reopen link) _

theorem nextTag_listen (link : Hf2Link β) : link.listen.nextTag = link.nextTag := by
  unfold listen
  split
  · exact (take_keeps _ _).2.1
  · rfl

theorem nextTag_make (link : Hf2Link β) (move : Move) :
    (move.make link).2.nextTag = move.tagAfter link.nextTag := by
  cases move with
  | ask command payload =>
    have hsend : (link.asking command payload).2.nextTag = link.nextTag + 1 :=
      (agrees_send _ _).nextTag
    change (link.ask command payload).2.nextTag = link.nextTag + 1
    rw [ask_eq]
    generalize link.asking command payload = asked at hsend ⊢
    obtain ⟨result, sent⟩ := asked
    cases result with
    | error error => exact hsend
    | ok _ =>
      rw [conclude_snd, ← hsend]
      exact nextTag_listen sent
  | tell command => exact (agrees_tell link command).nextTag
  | reopen => exact (agrees_reopen link).nextTag

/-- A dialogue writes the reports of its moves, all of them if it goes well. -/
theorem wrote_run {α : Type} (dialogue : Dialogue α) (link : Hf2Link (Watched β)) :
    Wrote link.bus (dialogue.run link).2.bus
      (Move.allReports link.nextTag (Turn.said (dialogue.turns link))) (dialogue.run link).1 := by
  induction dialogue generalizing link with
  | done result => exact wrote_nothing rfl _
  | ask command payload next ih =>
    have hmake := wrote_make link (.ask command payload)
    have htag := nextTag_make link (.ask command payload)
    simp only [Dialogue.run, Dialogue.turns, Turn.said, List.map_cons, Move.allReports]
    simp only [Move.make] at hmake htag
    cases hask : Channel.ask link command payload with
    | mk result link' =>
      rw [hask] at hmake htag
      cases result with
      | error error => exact hmake.stop _ _
      | ok reply => exact hmake.append (htag ▸ ih reply link')
  | tell command next ih =>
    have hmake := wrote_make link (.tell command)
    have htag := nextTag_make link (.tell command)
    simp only [Dialogue.run, Dialogue.turns, Turn.said, List.map_cons, Move.allReports]
    simp only [Move.make] at hmake htag
    cases htell : Channel.tell link command with
    | mk result link' =>
      rw [htell] at hmake htag
      cases result with
      | error error => exact hmake.stop _ _
      | ok _ => exact hmake.append (htag ▸ ih link')
  | reopen next ih =>
    have hmake := wrote_make link .reopen
    have htag := nextTag_make link .reopen
    simp only [Dialogue.run, Dialogue.turns, Turn.said, List.map_cons, Move.allReports]
    simp only [Move.make] at hmake htag
    cases hreopen : Channel.reopen link with
    | mk result link' =>
      rw [hreopen] at hmake htag
      cases result with
      | error error => exact hmake.stop _ _
      | ok _ => exact hmake.append (htag ▸ ih link')

/-- A reply that comes back is an answer of the device, with the tag of its command and no
failure. -/
theorem isAnswered_of_ask {link : Hf2Link β} {command : UInt32} {payload reply : Bytes}
    (h : (link.ask command payload).1 = .ok reply) :
    ∃ sent info, link.asking command payload = (.ok (), sent) ∧
      IsAnswered (link.nextTag &&& 0x7fff) sent.arriving 0 info reply := by
  cases hsent : link.asking command payload with
  | mk result sent =>
    cases result with
    | error error =>
      rw [(agrees_ask_of_error hsent).1] at h
      cases h
    | ok _ =>
      let pending : Pending := ⟨link.nextTag &&& 0x7fff, command⟩
      have hslot : (link.after (.request command)).exchange.slot = .waiting pending := rfl
      have hturns : ∀ happening ∈ sent.arriving, ¬happening.Turns := fun happening hmem =>
        (sent.forall_mem_arriving happening hmem).1
      rw [(agrees_ask hsent).1] at h
      obtain ⟨info, hanswered⟩ :=
        findSome?_verdict?_eq_ok.1 ((conclude_eq hslot hturns (by simp)).1 h)
      exact ⟨sent, info, rfl, hanswered⟩

theorem wrote_serve (link : Hf2Link (Watched β)) (request : Request) :
    Wrote link.bus (link.serve request).link.bus
      (Move.allReports link.nextTag (Turn.said ((Dialogue.ofRequest request).turns link)))
      (link.serve request).answer := by
  obtain ⟨sent, hsent, hinit, hall⟩ := wrote_run (Dialogue.ofRequest request) link
  exact ⟨sent, (written_listen _).trans hsent, hinit, hall⟩

theorem wrote_serve_flash (link : Hf2Link (Watched β)) (image : Image) :
    Wrote link.bus (link.serve (.flash image)).link.bus
      (Move.allReports link.nextTag (Turn.said ((Dialogue.flash image).turns link)))
      (link.serve (.flash image)).answer :=
  wrote_serve link (.flash image)

theorem start_notMem_pages (image : Image) (pageSize : Nat) :
    Move.start ∉ (image.pages pageSize).map Move.page := by
  simp [Move.start, Move.page]

/-- What was written is started when every page of it has been acknowledged. -/
theorem page_before_start {link : Hf2Link β} {image : Image} {info : BinInfo}
    {before earlier after : List (Turn (Hf2Link β))} {turn : Turn (Hf2Link β)}
    (hturns : (Dialogue.flash image).turns link = before ++ turn :: after)
    (hearlier : earlier <:+ before)
    (hsaid : Turn.said (earlier ++ turn :: after) <+: Move.install image info)
    (hstart : turn.move = .start) {page : Page} (hpage : page ∈ image.pages info.pageSize.toNat) :
    ∃ earlier ∈ before, earlier.move = .page page ∧ earlier.outcome = .ok () := by
  have hpages : (image.pages info.pageSize.toNat).map Move.page <+: Turn.said earlier := by
    rw [Turn.said_append] at hsaid
    have hcons : Turn.said (turn :: after) = .start :: Turn.said after := by
      rw [← hstart]
      rfl
    rw [hcons] at hsaid
    exact prefix_of_append_cons hsaid (start_notMem_pages _ _)
  obtain ⟨written, hwritten, hmove⟩ := List.mem_map.1 (hpages.subset (List.mem_map_of_mem hpage))
  have hmem := hearlier.subset hwritten
  have hend := (Dialogue.follows_flash link image).endWith
  rw [hturns] at hend
  exact ⟨written, hmem, hmove, hend.outcome_before written hmem⟩

/-- What is written to flash an image, and how that ends. -/
theorem flash_sends (link : Hf2Link (Watched β)) (image : Image) :
    let turns := (Dialogue.flash image).turns link
    let served := link.serve (.flash image)
    Wrote link.bus served.link.bus (Move.allReports link.nextTag (Turn.said turns))
      served.answer ∧
    Turn.said turns <+: Move.flash image (Turn.infos turns) ∧
    (∀ pageSize, Image.Increasing (image.pages pageSize)) ∧
    (image.Fits → ∀ pageSize, (image.pages pageSize).Pairwise fun page next =>
      UInt32.ofNat page.address < UInt32.ofNat next.address) ∧
    Turn.EndWith turns served.answer ∧
    (served.answer = .ok () → ∃ info, (Turn.infos turns).getLast? = some info ∧
      Turn.said turns = Move.enter (Turn.infos turns) ++ Move.install image info) ∧
    (∀ before turn after, turns = before ++ turn :: after →
      turn.move ∉ Move.inquiry :: Move.restart →
      ∃ info, (Turn.infos before).getLast? = some info ∧ turn.move ∈ Move.install image info ∧
        (turn.move = .start → ∀ page ∈ image.pages info.pageSize.toNat,
          ∃ earlier ∈ before, earlier.move = .page page ∧ earlier.outcome = .ok ())) ∧
    ∀ turn ∈ turns, ∀ command payload reply, turn.move = .ask command payload →
      turn.result = .ok reply → ∃ sent info,
        turn.channel.asking command payload = (.ok (), sent) ∧
        IsAnswered (turn.channel.nextTag &&& 0x7fff) sent.arriving 0 info reply := by
  intro turns served
  have hfollows := Dialogue.follows_flash link image
  refine ⟨wrote_serve_flash link image, hfollows.said, Image.increasing_pages image,
    Image.increasing_words, hfollows.endWith, Dialogue.said_flash_of_ok, ?_, ?_⟩
  · intro before turn after hturns hmove
    obtain ⟨info, earlier, hentered, -, hearlier, hsaid⟩ := Dialogue.exists_installing hturns hmove
    refine ⟨info, hentered.getLast?_eq, ?_, ?_⟩
    · refine hsaid.subset (List.mem_map_of_mem ?_)
      simp
    · intro hstart page hpage
      exact page_before_start hturns hearlier hsaid hstart hpage
  · rintro ⟨move, channel⟩ - command payload reply rfl hreply
    exact isAnswered_of_ask hreply

/-- A device that answers each of these commands up to four times, always in the same way. -/
def answeringBus (answers : List (UInt32 × Bytes)) : ScriptedBus :=
  { soleBus with
    script := answers.map fun (command, payload) =>
      ⟨some command, 4, none, none, [], false, [.reply (.after 0) 0 0 payload 63]⟩ }

/-- An image that does not fit is flashed all the same, its last page at the address zero. -/
theorem flash_wrapped :
    ∃ link : Hf2Link ScriptedBus,
      connect .standard (answeringBus
        [(Command.binInfo, wordBytes [1, 16, 64, 64]), (Command.writeFlashPage, [])]) = .ok link ∧
      let image : Image := ⟨[⟨0xffffffff, [1, 2]⟩]⟩
      let served := link.serve (.flash image)
      served.answer.isOk = true ∧
        served.link.bus.commands.map (fun sent => (sent.command, sent.payload.take 4)) =
          [(Command.binInfo, []), (Command.writeFlashPage, wordBytes [0xfffffff0]),
            (Command.writeFlashPage, wordBytes [0]), (Command.resetIntoApp, [])] ∧
        ¬(image.pages 16).Pairwise fun page next =>
          UInt32.ofNat page.address < UInt32.ofNat next.address := by
  refine ⟨_, rfl, ?_⟩
  decide +kernel

/-- The pages go to a device that last said to be a bootloader, unless it came back from a reset as
something else; what it says then is not looked at. -/
theorem flash_guarded_iff (link : Hf2Link β) (image : Image) :
    let turns := (Dialogue.flash image).turns link
    let answer := (link.serve (.flash image)).answer
    ((∀ before turn after page, turns = before ++ turn :: after → turn.move = .page page →
        ∃ info, (Turn.infos before).getLast? = some info ∧ info.mode = .bootloader) ∧
      ∀ first second, Turn.infos turns = [first, second] → second.mode ≠ .bootloader →
        (∃ error, answer = .error error) ∧ ∀ page, Move.page page ∉ Turn.said turns) ↔
    ∀ first second, Turn.infos turns = [first, second] → second.mode = .bootloader ∨
      image.pages second.pageSize.toNat = [] ∧ ∃ error, answer = .error error := by
  intro turns answer
  constructor
  · rintro ⟨-, hfails⟩ first second hinfos
    by_cases hmode : second.mode = .bootloader
    · exact .inl hmode
    · obtain ⟨herror, hnone⟩ := hfails first second hinfos hmode
      exact .inr ⟨Dialogue.pages_eq_nil hinfos hnone, herror⟩
  · intro hsecond
    refine ⟨fun before turn after page hturns hpage => ?_, fun first second hinfos hmode => ?_⟩
    · obtain ⟨info, hentered, hinfos, hpages⟩ := Dialogue.exists_info_of_page hturns hpage
      refine ⟨info, hentered.getLast?_eq, ?_⟩
      generalize Turn.infos before = known at hentered hinfos
      cases hentered with
      | present hmode => exact hmode
      | restarted _ _ =>
        obtain hmode | ⟨hnone, -⟩ := hsecond _ _ hinfos
        · exact hmode
        · exact absurd hnone hpages
    · obtain h | ⟨hnone, herror⟩ := hsecond first second hinfos
      · exact absurd h hmode
      · refine ⟨herror, fun page hpage => ?_⟩
        obtain ⟨turn, hturn, hmove⟩ := List.mem_map.1 hpage
        obtain ⟨before, after, hturns⟩ := List.append_of_mem hturn
        obtain ⟨info, hentered, hall, hpages⟩ := Dialogue.exists_info_of_page hturns hmove
        have hlast := hentered.getLast?_eq
        rw [← hall, hinfos] at hlast
        obtain rfl : second = info := Option.some.inj hlast
        exact hpages hnone

/-- An application, which comes back from a reset into the bootloader as one, is given a page as if
it were a bootloader. -/
theorem flash_application :
    ∃ link : Hf2Link ScriptedBus,
      connect .standard (answeringBus
        [(Command.binInfo, wordBytes [2, 16, 64, 64]), (Command.writeFlashPage, [])]) = .ok link ∧
      let image : Image := ⟨[⟨0x2000, [1]⟩]⟩
      let turns := (Dialogue.flash image).turns link
      let served := link.serve (.flash image)
      served.answer.isOk = true ∧ (Turn.infos turns).map (·.mode) = [.app, .app] ∧
        Move.page ⟨0x2000, 1 :: List.replicate 15 0xff⟩ ∈ Turn.said turns ∧
        served.link.bus.commands.map (·.command) =
          [Command.binInfo, Command.resetIntoBootloader, Command.binInfo, Command.writeFlashPage,
            Command.resetIntoApp] := by
  refine ⟨_, rfl, ?_⟩
  decide +kernel

end Hf2Link

end BoardDebug
