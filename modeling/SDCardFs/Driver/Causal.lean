import SDCardFs.Driver.Command

set_option autoImplicit false

namespace SDCardFs.Driver

-- The same card with more answers to come and a longer history on the bus.
def SDCard.amid (card : SDCard) (past : List Transfer) (more : List UInt8) : SDCard :=
  { card with bus := ⟨card.bus.rx ++ more, card.bus.csHigh, card.bus.transfers ++ past⟩ }

-- A call depends on the answers it reads and on nothing that comes after them
-- or went before it, so its run on a finite stream is its run on any extension.
def Causal {α : Type} (call : DriverM α) : Prop :=
  ∀ card value after past more, call.run card = some (value, after) →
    call.run (card.amid past more) = some (value, after.amid past more)

theorem causal_pure {α : Type} (result : α) : Causal (pure result : DriverM α) := by
  intro card value after past more ran
  obtain ⟨rfl, rfl⟩ := (Lib.pure_run_some _ _ _ _).mp ran
  rfl

theorem causal_bind {α β : Type} {first : DriverM α} {rest : α → DriverM β} (firstCausal : Causal first)
    (restCausal : ∀ result, Causal (rest result)) : Causal (first >>= rest) := by
  intro card value after past more ran
  obtain ⟨result, between, firstRun, restRun⟩ := (Lib.bind_run_some _ _ _ _ _).mp ran
  exact (Lib.bind_run_some _ _ _ _ _).mpr
    ⟨result, between.amid past more, firstCausal _ _ _ _ _ firstRun, restCausal result _ _ _ _ _ restRun⟩

theorem causal_ite {α : Type} {condition : Prop} [Decidable condition] {yes no : DriverM α} (yesCausal : Causal yes)
    (noCausal : Causal no) : Causal (if condition then yes else no) := by
  split
  · exact yesCausal
  · exact noCausal

theorem causal_modify (change : SDCard → SDCard) (apart : ∀ card past more, change (card.amid past more) = (change card).amid past more) :
    Causal (modify change) := by
  intro card value after past more ran
  obtain ⟨-, rfl⟩ := Prod.mk.inj (Option.some.inj ran)
  exact congrArg (fun changed => some ((), changed)) (apart card past more)

theorem causal_member {α : Type} (field : SDCard → α) (apart : ∀ card past more, field (card.amid past more) = field card) :
    Causal (member field) := by
  intro card value after past more ran
  obtain ⟨rfl, rfl⟩ := Prod.mk.inj (Option.some.inj ran)
  exact congrArg (fun found => some (found, card.amid past more)) (apart card past more)

theorem transfer_causal (data : UInt8) : Causal (transfer data) := by
  intro card value after past more ran
  obtain ⟨rest, answers, rfl⟩ := transfer_effect data card value after ran
  simp [transfer, StateT.run, SDCard.amid, answers]

theorem set_cs_causal (high : Bool) : Causal (setCs high) := causal_modify _ fun _ _ _ => rfl

theorem record_causal (event : Event) : Causal (record event) := causal_modify _ fun _ _ _ => rfl

theorem set_card_type_causal (cardType : CardType) : Causal (setCardType cardType) := causal_modify _ fun _ _ _ => rfl

theorem select_causal : Causal select :=
  causal_bind (transfer_causal _) fun _ => causal_bind (transfer_causal _) fun _ => set_cs_causal _

theorem unselect_causal : Causal unselect := causal_bind (transfer_causal _) fun _ => set_cs_causal _

theorem transfer_all_causal (bytes : List UInt8) : Causal (transferAll bytes) := by
  induction bytes with
  | nil => exact causal_pure ()
  | cons byte rest ih => exact causal_bind (transfer_causal byte) fun _ => ih

theorem wait_ready_loop_causal (timeous c : Int) (fuel : Nat) : Causal (waitReadyLoop timeous c fuel) := by
  induction fuel with
  | zero => intro card value after past more ran; cases ran
  | succ fuel ih =>
      refine causal_bind (transfer_causal _) fun response => ?_
      exact causal_ite (causal_pure _) (causal_ite ih (causal_pure _))

theorem wait_ready_loop_more (timeous c : Int) (fuel extra : Nat) (card : SDCard) (answer : Bool × SDCard)
    (ran : (waitReadyLoop timeous c fuel).run card = some answer) : (waitReadyLoop timeous c (fuel + extra)).run card = some answer := by
  induction fuel generalizing card with
  | zero => cases ran
  | succ fuel ih =>
      rw [Nat.add_right_comm]
      obtain ⟨response, between, heard, rest⟩ := (Lib.bind_run_some _ _ _ _ _).mp ran
      refine (Lib.bind_run_some _ _ _ _ _).mpr ⟨response, between, heard, ?_⟩
      split at rest
      · rename_i ready
        rw [if_pos ready]
        exact rest
      · rename_i busy
        rw [if_neg busy]
        split at rest
        · rename_i early
          rw [if_pos early]
          exact ih between rest
        · rename_i late
          rw [if_neg late]
          exact rest

theorem wait_ready_causal (timeous : Int) : Causal (waitReady timeous) := by
  intro card value after past more ran
  have longer := wait_ready_loop_causal timeous 0 _ card value after past more ran
  have enough := wait_ready_loop_more timeous 0 _ more.length _ _ longer
  have fuel : (card.amid past more).bus.rx.length + 1 = card.bus.rx.length + 1 + more.length := by
    simp only [SDCard.amid, List.length_append]
    omega
  change waitReadyLoop timeous 0 ((card.amid past more).bus.rx.length + 1) (card.amid past more) = _
  rw [fuel]
  exact enough

theorem cmd_spi_loop_causal (tries : Nat) (response : UInt8) : Causal (cmdSpiLoop tries response) := by
  induction tries generalizing response with
  | zero => exact causal_pure response
  | succ tries ih => exact causal_bind (transfer_causal _) fun byte => causal_ite (causal_pure _) (ih byte)

theorem cmd_spi_causal (code : CmdSupported) (arg : UInt32) : Causal (cmdSpi code arg) := by
  refine causal_bind (causal_member _ fun _ _ _ => rfl) fun crcOn => causal_bind (transfer_all_causal _) fun _ => ?_
  dsimp only
  split
  · exact causal_bind (transfer_causal _) fun _ => cmd_spi_loop_causal _ _
  · exact cmd_spi_loop_causal _ _

theorem cmd_attempts_causal (code : CmdSupported) (arg : UInt32) (isAcmd : Bool) (attempts : Nat) (response : UInt32) :
    Causal (cmdAttempts code arg isAcmd attempts response) := by
  induction attempts generalizing response with
  | zero => exact causal_pure response
  | succ attempts ih =>
      have sends : Causal (do
          let byte ← cmdSpi code arg
          if r1NoResponse = byte.toUInt32 then cmdAttempts code arg isAcmd attempts byte.toUInt32
          else pure byte.toUInt32) :=
        causal_bind (cmd_spi_causal _ _) fun byte => causal_ite (ih _) (causal_pure _)
      rw [cmdAttempts]
      dsimp only
      split
      · exact causal_bind (cmd_spi_causal _ _) fun _ => causal_bind (wait_ready_causal _) fun _ => sends
      · exact sends

theorem read_word_causal : Causal readWord :=
  causal_bind (transfer_causal _) fun _ => causal_bind (transfer_causal _) fun _ =>
    causal_bind (transfer_causal _) fun _ => causal_bind (transfer_causal _) fun _ => causal_pure _

theorem cmd_tail_causal (code : CmdSupported) (response : UInt32) : Causal (cmdTail code response) := by
  cases code
  case cmd8SendIfCond => exact causal_bind (set_card_type_causal _) fun _ => read_word_causal
  case cmd58ReadOcr => exact read_word_causal
  case cmd12StopTransmission => exact causal_bind (wait_ready_causal _) fun _ => causal_pure _
  case cmd38Erase => exact causal_bind (wait_ready_causal _) fun _ => causal_pure _
  case cmd13SendStatus => exact causal_bind (transfer_causal _) fun _ => causal_pure _
  all_goals exact causal_pure _

theorem cmd_answer_causal (code : CmdSupported) (response : UInt32) : Causal (cmdAnswer code response) := by
  have leave (answer : Int32 × UInt32) : Causal (do unselect; return answer) :=
    causal_bind unselect_causal fun _ => causal_pure answer
  refine causal_ite (leave _) (causal_ite (leave _) (causal_ite (causal_bind unselect_causal fun _ => ?_)
    (causal_bind (cmd_tail_causal _ _) fun full => causal_ite (causal_pure _) (leave _))))
  dsimp only
  exact causal_ite (causal_bind (set_card_type_causal _) fun _ => causal_pure _) (causal_pure _)

theorem cmd_causal (code : CmdSupported) (arg : UInt32) (isAcmd : Bool) : Causal (cmd code arg isAcmd) := by
  refine causal_bind (causal_bind select_causal fun _ => ?_) fun _ => causal_bind (record_causal _) fun _ => causal_pure _
  have attempts : Causal (do let response ← cmdAttempts code arg isAcmd 3 r1NoResponse; cmdAnswer code response) :=
    causal_bind (cmd_attempts_causal _ _ _ _ _) fun response => cmd_answer_causal code response
  dsimp only
  exact causal_ite (causal_bind (wait_ready_causal _) fun _ => attempts) attempts

end SDCardFs.Driver
