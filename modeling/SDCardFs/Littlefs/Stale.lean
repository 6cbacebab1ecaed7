import SDCardFs.Lib.Runs
import SDCardFs.Littlefs.Access
import SDCardFs.Littlefs.Coherent

set_option autoImplicit false

namespace SDCardFs.Littlefs

abbrev AccessLog : Type := Lib.Prog.Log Access Access.Response

-- A read that succeeds fills its destination with what the blocks hold; one
-- that fails does so with a negative status and anything in the destination.
def Honest (image : Image) : (access : Access) → access.Response → Prop
  | .read block off size, result =>
      result.err < 0 ∨ (result.err = 0 ∧ size ≤ result.filled ∧ ∀ p, p < size → result.byte p = image block (off + UInt32.ofNat p))
  | .prog _ _ _, _ => True

-- The load that left the cache as it is, and whether an access failed.
def Access.loads (rcache : Cache) : Access → Bool
  | .read block off size => block = rcache.block ∧ off = rcache.off ∧ size = rcache.size.toNat
  | .prog _ _ _ => false

def Access.failed : (access : Access) → access.Response → Bool
  | .read _ _ _, (result : ReadResult) => result.err ≠ 0
  | .prog _ _ _, (err : Int32) => err ≠ 0

-- The latest access comes first in the log.
def failedLoad (rcache : Cache) (log : AccessLog) : Bool :=
  (log.find? fun entry => entry.1.loads rcache).any fun entry => entry.1.failed entry.2

theorem failed_load_other (rcache : Cache) (entry : (access : Access) × access.Response) (log : AccessLog)
    (other : ¬ entry.1.loads rcache = true) : failedLoad rcache (entry :: log) = failedLoad rcache log := by
  simp only [failedLoad, List.find?_cons, other]

theorem failed_load_same (rcache : Cache) (entry : (access : Access) × access.Response) (log : AccessLog)
    (same : entry.1.loads rcache = true) : failedLoad rcache (entry :: log) = entry.1.failed entry.2 := by
  simp only [failedLoad, List.find?_cons, same, Option.any_some]

-- A byte of the stretch is one that lfs_bd_read takes from the cache.
def Touches (rcache : Cache) (block off : UInt32) (length : Nat) : Prop :=
  ∃ p, p < length ∧ rcache.covers block (off + UInt32.ofNat p) = true ∧ off + UInt32.ofNat p ≥ rcache.off

-- Either the cache is good, or its load failed and the stretch avoids it.
def Usable (cfg : Config) (image : Image) (rcache : Cache) (log : AccessLog) (block off : UInt32) (length : Nat) : Prop :=
  Coherent cfg image rcache ∨ (failedLoad rcache log = true ∧ ¬ Touches rcache block off length)

def Accounted (cfg : Config) (image : Image) (rcache : Cache) (log : AccessLog) : Prop :=
  Coherent cfg image rcache ∨ failedLoad rcache log = true

theorem usable_accounted (cfg : Config) (image : Image) (rcache : Cache) (log : AccessLog) (block off : UInt32) (length : Nat)
    (usable : Usable cfg image rcache log block off length) : Accounted cfg image rcache log := usable.imp id And.left

theorem usable_turn (cfg : Config) (image : Image) (rcache : Cache) (log : AccessLog) (hint block off : UInt32) (size : Nat)
    (valid : block < cfg.blockCount) (positive : 0 < size) (usable : Usable cfg image rcache log block off size) :
    TurnDirect none image block off size (bdTurn cfg none rcache hint block off size) := by
  rcases usable with coherent | ⟨-, avoids⟩
  · exact turn_direct cfg image none rcache hint block off size valid coherent (Or.inl rfl)
  · have miss : ¬ (rcache.covers block off = true ∧ off ≥ rcache.off) := by
      intro hit
      refine avoids ⟨0, positive, ?_⟩
      have here : off + UInt32.ofNat 0 = off := UInt32.add_zero off
      rw [here]
      exact hit
    rw [bdTurn, bdTurnRcache, if_neg miss]
    dsimp only
    have fewer : (if rcache.covers block off = true then min size (rcache.off - off).toNat else size) ≤ size := by
      split
      · exact Nat.min_le_left _ _
      · exact Nat.le_refl _
    split
    · exact ⟨by omega, fun _ _ => rfl⟩
    · trivial

theorem touches_rest (rcache : Cache) (block off : UInt32) (length diff : Nat)
    (touches : Touches rcache block (off + UInt32.ofNat diff) (length - diff)) : Touches rcache block off length := by
  obtain ⟨p, inside, covered, after⟩ := touches
  have sum : off + UInt32.ofNat diff + UInt32.ofNat p = off + UInt32.ofNat (diff + p) := by rw [UInt32.ofNat_add, UInt32.add_assoc]
  rw [sum] at covered after
  exact ⟨diff + p, by omega, covered, after⟩

theorem usable_rest (cfg : Config) (image : Image) (rcache : Cache) (log : AccessLog) (block off : UInt32) (length diff : Nat)
    (usable : Usable cfg image rcache log block off length) :
    Usable cfg image rcache log block (off + UInt32.ofNat diff) (length - diff) :=
  usable.imp id fun stale => ⟨stale.1, fun touches => stale.2 (touches_rest rcache block off length diff touches)⟩

-- A read past the cache is not taken for the load that left it, unless the
-- cache holds nothing.
theorem usable_bypass (cfg : Config) (image : Image) (rcache : Cache) (log : AccessLog) (block off : UInt32) (length diff : Nat)
    (result : ReadResult) (within : diff ≤ length) (noWrap : off.toNat + length < 2 ^ 32)
    (usable : Usable cfg image rcache log block off length) :
    Usable cfg image rcache (⟨.read block off diff, result⟩ :: log) block off length := by
  rcases usable with coherent | ⟨failed, avoids⟩
  · exact Or.inl coherent
  · by_cases same : (Access.read block off diff).loads rcache = true
    · left
      obtain ⟨blocks, starts, sizes⟩ : block = rcache.block ∧ off = rcache.off ∧ diff = rcache.size.toNat := by
        simpa [Access.loads] using same
      intro _ p inside
      exfalso
      refine avoids ⟨0, by omega, ?_, ?_⟩
      · have less : off < rcache.off + rcache.size := by
          rw [UInt32.lt_iff_toNat_lt, UInt32.toNat_add, ← starts, ← sizes]
          omega
        simpa [Cache.covers] using ⟨blocks, less⟩
      · exact starts ▸ UInt32.le_of_eq (UInt32.add_zero off).symm
    · exact Or.inr ⟨(failed_load_other rcache _ log same).trans failed, avoids⟩

theorem load_accounted (cfg : Config) (image : Image) (rcache : Cache) (log : AccessLog) (hint block off : UInt32) (result : ReadResult)
    (failed : result.err ≠ 0) : Accounted cfg image
      { rcacheLoad cfg rcache hint block off with
        buffer := result.into (rcacheLoad cfg rcache hint block off).size.toNat (rcacheLoad cfg rcache hint block off).buffer }
      (⟨.read block (rcacheLoad cfg rcache hint block off).off (rcacheLoad cfg rcache hint block off).size.toNat, result⟩ :: log) := by
  right
  rw [failed_load_same _ _ _ (by simp [Access.loads, rcacheLoad])]
  simpa [Access.failed] using failed

theorem load_coherent (cfg : Config) (image : Image) (rcache : Cache) (hint block off : UInt32) (result : ReadResult)
    (honest : Honest image (.read block (rcacheLoad cfg rcache hint block off).off (rcacheLoad cfg rcache hint block off).size.toNat) result)
    (done : result.err = 0) : Coherent cfg image
      { rcacheLoad cfg rcache hint block off with
        buffer := result.into (rcacheLoad cfg rcache hint block off).size.toNat (rcacheLoad cfg rcache hint block off).buffer } := by
  intro _ p inside
  rcases honest with negative | ⟨-, full, bytes⟩
  · rw [done] at negative
    exact absurd negative (by decide)
  · have inSize : p < (rcacheLoad cfg rcache hint block off).size.toNat := inside
    exact (if_pos ⟨Nat.lt_of_lt_of_le inSize full, inSize⟩).trans (bytes p inSize)

theorem dev_read_plays (block off : UInt32) (size : Nat) (entries : AccessLog) (result : ReadResult)
    (played : (devRead block off size).Plays entries result) : entries = [⟨.read block off size, result⟩] := by
  obtain ⟨answer, rest, rfl, ended⟩ := (Lib.Prog.plays_ask _ _ _ _).mp played
  obtain ⟨rfl, rfl⟩ := (Lib.Prog.plays_done _ _ _).mp ended
  rfl

theorem bypass_chunk (image : Image) (block off : UInt32) (diff : Nat) (buffer : Nat → UInt8) (result : ReadResult)
    (honest : Honest image (.read block off diff) result) (done : result.err = 0) :
    Lib.slice (result.into diff buffer) 0 diff = directBytes none image block off diff := by
  rcases honest with negative | ⟨-, full, bytes⟩
  · rw [done] at negative
    exact absurd negative (by decide)
  · refine Lib.slice_congr _ _ _ _ _ fun p inside => ?_
    simp only [Nat.zero_add, ReadResult.into]
    rw [if_pos ⟨Nat.lt_of_lt_of_le inside full, inside⟩]
    exact bytes p inside

-- What a stretch of the loop delivers where it succeeds, and what it leaves.
def LoopExact (cfg : Config) (image : Image) (hint block : UInt32) (fuel : Nat) : Prop :=
  ∀ (off : UInt32) (data out : List UInt8) (rcache after : Cache) (err : Int32) (entries log : AccessLog),
    off.toNat + data.length < 2 ^ 32 → Usable cfg image rcache log block off data.length →
    (∀ entry ∈ entries, Honest image entry.1 entry.2) →
    (Calls.lfsBdReadLoop cfg none hint block fuel off data rcache).Plays entries ((err, out), after) →
    (err = 0 → out = directBytes none image block off data.length) ∧ Accounted cfg image after (entries.reverse ++ log)

-- A chunk that holds the card's bytes, and the stretch after it.
theorem chunk_exact (cfg : Config) (image : Image) (hint block : UInt32) (fuel : Nat) (rest : LoopExact cfg image hint block fuel)
    (off : UInt32) (data chunk out : List UInt8) (diff : Nat) (rcache after : Cache) (err : Int32) (entries log : AccessLog)
    (within : diff ≤ data.length) (bytes : chunk = directBytes none image block off diff) (noWrap : off.toNat + data.length < 2 ^ 32)
    (usable : Usable cfg image rcache log block off data.length) (honest : ∀ entry ∈ entries, Honest image entry.1 entry.2)
    (played : (do
      let ended ← Calls.lfsBdReadLoop cfg none hint block fuel (off + UInt32.ofNat diff) (data.drop diff) rcache
      return ((ended.1.1, chunk ++ ended.1.2), ended.2) : DevM ((Int32 × List UInt8) × Cache)).Plays entries ((err, out), after)) :
    (err = 0 → out = directBytes none image block off data.length) ∧ Accounted cfg image after (entries.reverse ++ log) := by
  obtain ⟨⟨⟨last, tail⟩, final⟩, first, second, rfl, looped, ended⟩ := (Lib.Prog.plays_bind _ _ _ _).mp played
  obtain ⟨rfl, same⟩ := (Lib.Prog.plays_done _ _ _).mp ended
  cases same
  rw [List.append_nil] at honest ⊢
  have shorter : (off + UInt32.ofNat diff).toNat + (data.drop diff).length < 2 ^ 32 := by
    rw [offset_toNat off diff (by omega), List.length_drop]
    omega
  have left := usable_rest cfg image rcache log block off data.length diff usable
  rw [← List.length_drop] at left
  obtain ⟨exact, accounted⟩ := rest _ _ _ _ _ _ _ log shorter left honest looped
  refine ⟨fun done => ?_, accounted⟩
  rw [exact done]
  exact direct_chunk within bytes

theorem read_loop_exact (cfg : Config) (image : Image) (hint block : UInt32) (valid : block < cfg.blockCount) (fuel : Nat) :
    LoopExact cfg image hint block fuel := by
  induction fuel with
  | zero =>
      intro off data out rcache after err entries log noWrap usable honest played
      cases data with
      | nil =>
          obtain ⟨rfl, same⟩ := (Lib.Prog.plays_done _ _ _).mp played
          cases same
          exact ⟨fun _ => rfl, usable_accounted _ _ _ _ _ _ _ usable⟩
      | cons byte rest => exact absurd played (Lib.Prog.not_plays_stuck _ _)
  | succ fuel ih =>
      intro off data out rcache after err entries log noWrap usable honest played
      cases data with
      | nil =>
          obtain ⟨rfl, same⟩ := (Lib.Prog.plays_done _ _ _).mp played
          cases same
          exact ⟨fun _ => rfl, usable_accounted _ _ _ _ _ _ _ usable⟩
      | cons byte rest =>
          have turn := usable_turn cfg image rcache log hint block off (byte :: rest).length valid (by simp) usable
          rw [Calls.lfsBdReadLoop] at played
          cases kind : bdTurn cfg none rcache hint block off (byte :: rest).length with
          | copy buffer start diff =>
              rw [kind] at turn played
              exact chunk_exact cfg image hint block fuel ih _ _ _ _ _ _ _ _ _ _ turn.1
                (Lib.slice_congr _ _ _ _ _ fun p inside => by simpa using turn.2 p inside) noWrap usable honest played
          | bypass diff =>
              rw [kind] at turn played
              obtain ⟨result, first, second, rfl, asked, answered⟩ := (Lib.Prog.plays_bind _ _ _ _).mp played
              obtain rfl := dev_read_plays _ _ _ _ _ asked
              have honestRead : Honest image (.read block off diff) result := honest _ List.mem_cons_self
              have kept := usable_bypass cfg image rcache log block off (byte :: rest).length diff result turn.1 noWrap usable
              dsimp only at answered
              by_cases done : result.err = 0
              · rw [if_neg fun other => other done] at answered
                obtain ⟨exact, accounted⟩ := chunk_exact cfg image hint block fuel ih _ _ _ _ _ _ _ _ _ _ turn.1
                  (bypass_chunk image block off diff _ result honestRead done) noWrap kept
                  (fun entry member => honest entry (List.mem_cons_of_mem _ member)) answered
                exact ⟨exact, by simpa using accounted⟩
              · rw [if_pos done] at answered
                obtain ⟨rfl, same⟩ := (Lib.Prog.plays_done _ _ _).mp answered
                cases same
                exact ⟨fun good => absurd good done, by simpa using usable_accounted _ _ _ _ _ _ _ kept⟩
          | load =>
              rw [kind] at played
              have present : ¬ block ≥ cfg.blockCount := UInt32.not_le.mpr valid
              dsimp only at played
              rw [if_neg present] at played
              obtain ⟨result, first, second, rfl, asked, answered⟩ := (Lib.Prog.plays_bind _ _ _ _).mp played
              obtain rfl := dev_read_plays _ _ _ _ _ asked
              have honestRead := honest _ List.mem_cons_self
              by_cases done : result.err = 0
              · rw [if_neg fun other => other done] at answered
                have coherent := load_coherent cfg image rcache hint block off result honestRead done
                obtain ⟨exact, accounted⟩ := ih _ _ _ _ _ _ second _ noWrap (Or.inl coherent)
                  (fun entry member => honest entry (by simp [member])) answered
                exact ⟨exact, by simpa using accounted⟩
              · rw [if_pos done] at answered
                obtain ⟨rfl, same⟩ := (Lib.Prog.plays_done _ _ _).mp answered
                cases same
                exact ⟨fun good => absurd good done, by simpa using load_accounted cfg image rcache log hint block off result done⟩

structure ReadState where
  rcache : Cache
  log : AccessLog

structure ReadCall where
  hint : UInt32
  block : UInt32
  off : UInt32
  data : List UInt8

def ReadCall.Proper (call : ReadCall) : Prop := 1 ≤ call.hint ∧ call.off.toNat + call.data.length < 2 ^ 32

-- One lfs_bd_read without a program cache, with its status and destination.
def BdReads (cfg : Config) (image : Image) (before : ReadState) (input : ReadCall × (Int32 × List UInt8)) (after : ReadState) : Prop :=
  ∃ entries, (Calls.lfsBdRead cfg none before.rcache input.1.hint input.1.block input.1.off input.1.data).Plays entries (input.2, after.rcache) ∧
    (∀ entry ∈ entries, Honest image entry.1 entry.2) ∧ after.log = entries.reverse ++ before.log

-- A call that keeps away from a cache whose load failed.
def HeedfulReads (cfg : Config) (image : Image) (before : ReadState) (input : ReadCall × (Int32 × List UInt8)) (after : ReadState) : Prop :=
  BdReads cfg image before input after ∧ input.1.Proper ∧
    ¬ (failedLoad before.rcache before.log = true ∧ Touches before.rcache input.1.block input.1.off input.1.data.length)

theorem bd_read_exact (cfg : Config) (image : Image) (before after : ReadState) (input : ReadCall × (Int32 × List UInt8))
    (accounted : Accounted cfg image before.rcache before.log) (reads : HeedfulReads cfg image before input after) :
    (input.2.1 = 0 → input.2.2 = directBytes none image input.1.block input.1.off input.1.data.length) ∧
      Accounted cfg image after.rcache after.log := by
  obtain ⟨⟨entries, played, honest, logged⟩, ⟨-, noWrap⟩, heeds⟩ := reads
  rw [logged]
  rw [Calls.lfsBdRead] at played
  split at played
  · obtain ⟨rfl, same⟩ := (Lib.Prog.plays_done _ _ _).mp played
    obtain ⟨refused, kept⟩ := Prod.mk.inj same
    rw [← refused, ← kept]
    exact ⟨fun good => absurd good (show lfsErrCorrupt ≠ 0 by decide), accounted⟩
  · rename_i checked
    have valid : input.1.block < cfg.blockCount := UInt32.not_le.mp fun beyond => checked (Or.inl beyond)
    have usable : Usable cfg image before.rcache before.log input.1.block input.1.off input.1.data.length :=
      accounted.imp id fun failed => ⟨failed, fun touches => heeds ⟨failed, touches⟩⟩
    exact read_loop_exact cfg image _ _ valid _ _ _ _ _ _ _ _ _ noWrap usable honest played

theorem heedful_reads_exact (cfg : Config) (image : Image) (start after : ReadState) (inputs : List (ReadCall × (Int32 × List UInt8)))
    (dropped : start.rcache.block = lfsBlockNull) (ran : Lib.Run (HeedfulReads cfg image) start inputs after) :
    ∀ input ∈ inputs, input.2.1 = 0 → input.2.2 = directBytes none image input.1.block input.1.off input.1.data.length := by
  refine Lib.run_inputs (fun state : ReadState => Accounted cfg image state.rcache state.log) _
    (fun before input after accounted reads => bd_read_exact cfg image before after input accounted reads) ran (Or.inl ?_)
  intro impossible
  rw [dropped, UInt32.lt_iff_toNat_lt] at impossible
  have small := cfg.blockCount.toNat_lt
  have top : lfsBlockNull.toNat = 2 ^ 32 - 1 := rfl
  omega

def pageConfig : Config := ⟨512, 512, 512, 16, -1, 512, 8192, 0, 0, 0⟩

def emptyState : ReadState := ⟨Calls.lfsCacheDrop zeroCache, []⟩

def onesImage : Image := fun _ _ => 1

-- What a timeout of the first read leaves behind.
def timedOut : (Access.read 0 0 512).Response := (⟨-5008, 0, fun _ => 0⟩ : ReadResult)

def staleState : ReadState := ⟨rcacheLoad pageConfig emptyState.rcache 4 0 0, [⟨.read 0 0 512, timedOut⟩]⟩

theorem first_read_fails : BdReads pageConfig onesImage emptyState (⟨4, 0, 0, [9]⟩, (-5008, [9])) staleState := by
  refine ⟨[⟨.read 0 0 512, timedOut⟩], .ask _ _ _ _ _ (.done _), fun entry member => ?_, rfl⟩
  obtain rfl := List.mem_singleton.mp member
  exact Or.inl (by decide)

-- The retry finds the window in the cache, with what was in the buffer before.
theorem retry_reads_stale : ∃ start inputs after, start.rcache.block = lfsBlockNull ∧ Lib.Run (BdReads pageConfig onesImage) start inputs after ∧
    (∀ input ∈ inputs, input.1.Proper) ∧
    ∃ input ∈ inputs, input.2.1 = 0 ∧ input.2.2 ≠ directBytes none onesImage input.1.block input.1.off input.1.data.length := by
  have retry : BdReads pageConfig onesImage staleState (⟨4, 0, 0, [9]⟩, (0, [0])) staleState :=
    ⟨[], .done _, fun _ member => absurd member List.not_mem_nil, rfl⟩
  refine ⟨emptyState, [_, _], staleState, rfl, .snoc _ _ _ [_] _ (.snoc _ _ _ [] _ (.nil _) first_read_fails) retry, ?_, _,
    List.mem_cons_of_mem _ List.mem_cons_self, rfl, by decide⟩
  intro input member
  rcases List.mem_cons.mp member with rfl | member
  · exact ⟨by decide, by decide⟩
  obtain rfl := List.mem_singleton.mp member
  exact ⟨by decide, by decide⟩

def filledPage : (Access.read 1 0 512).Response := (⟨0, 512, fun _ => 1⟩ : ReadResult)

-- After the same timeout, a read of the next block.
theorem other_block_read_exact : ∃ after inputs, Lib.Run (HeedfulReads pageConfig onesImage) emptyState inputs after ∧
    ∃ input ∈ inputs, input.2.1 = 0 ∧ input.2.2 = directBytes none onesImage 1 0 1 := by
  have read : BdReads pageConfig onesImage staleState (⟨4, 1, 0, [9]⟩, (0, [1]))
      ⟨{ rcacheLoad pageConfig staleState.rcache 4 1 0 with buffer := ReadResult.into filledPage 512 staleState.rcache.buffer },
        ⟨.read 1 0 512, filledPage⟩ :: staleState.log⟩ := by
    refine ⟨[⟨.read 1 0 512, filledPage⟩], .ask _ _ _ _ _ (.done _), fun entry member => ?_, rfl⟩
    obtain rfl := List.mem_singleton.mp member
    exact Or.inr ⟨rfl, by decide, fun _ _ => rfl⟩
  have apart : ¬ Touches staleState.rcache 1 0 1 := by
    rintro ⟨p, -, covered, -⟩
    have same : (1 : UInt32) = staleState.rcache.block := (of_decide_eq_true covered).1
    exact absurd same (by decide)
  have whole : Lib.Run (HeedfulReads pageConfig onesImage) emptyState [(⟨4, 0, 0, [9]⟩, (-5008, [9])), (⟨4, 1, 0, [9]⟩, (0, [1]))] _ :=
    .snoc _ _ _ [_] _ (.snoc _ _ _ [] _ (.nil _) ⟨first_read_fails, ⟨by decide, by decide⟩, fun stale => absurd stale.1 (by decide)⟩)
      ⟨read, ⟨by decide, by decide⟩, fun stale => apart stale.2⟩
  have last : ((⟨4, 1, 0, [9]⟩, (0, [1])) : ReadCall × (Int32 × List UInt8)) ∈
      [((⟨4, 0, 0, [9]⟩, (-5008, [9])) : ReadCall × (Int32 × List UInt8)), (⟨4, 1, 0, [9]⟩, (0, [1]))] :=
    List.mem_cons_of_mem _ List.mem_cons_self
  exact ⟨_, _, whole, _, last, rfl, heedful_reads_exact pageConfig onesImage emptyState _ _ rfl whole _ last rfl⟩

end SDCardFs.Littlefs
