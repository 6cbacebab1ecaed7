import SDCardFs.Littlefs.Aligned
import SDCardFs.Littlefs.Ctz
import SDCardFs.Littlefs.InUse

set_option autoImplicit false

namespace SDCardFs.Littlefs

-- The block a pointer of a block leads to.
def ctzLink (pcache : Option Cache) (image : Image) (block : UInt32) (level : Nat) : UInt32 :=
  lfsFromle32 (directBytes pcache image block (UInt32.ofNat (4 * level)) 4)

-- The first blocks of a file as they are on the device, or in front of it in
-- the cache of a file that is being written.
structure CtzList (cfg : Config) (pcache : Option Cache) (image : Image) (node : Nat → UInt32) (count : Nat) : Prop where
  inside : ∀ index, index < count → node index < cfg.blockCount
  skips : Lib.Skips (ctzLink pcache image) node count

-- The blocks of a file of a size, head the last of them.
structure CtzFile (cfg : Config) (pcache : Option Cache) (image : Image) (node : Nat → UInt32) (last : Nat) (head size : UInt32) : Prop where
  some : size ≠ 0
  list : CtzList cfg pcache image node (last + 1)
  ends : InBlock cfg.blockSize.toNat last (size.toNat - 1)
  starts : node last = head

theorem size_pred_toNat (size : UInt32) (some : size ≠ 0) : (size - 1).toNat = size.toNat - 1 ∧ 0 < size.toNat := by
  have positive : 0 < size.toNat := Nat.pos_iff_ne_zero.mpr fun zero => some (UInt32.toNat_inj.mp zero)
  exact ⟨UInt32.toNat_sub_of_le _ _ (UInt32.le_iff_toNat_le.mpr positive), positive⟩

theorem file_top (cfg : Config) (pcache : Option Cache) (image : Image) (large : 128 ≤ cfg.blockSize.toNat) (node : Nat → UInt32) (last : Nat)
    (head size : UInt32) (file : CtzFile cfg pcache image node last head size) : (lfsCtzIndex cfg (size - 1)).toNat = last :=
  ctz_index_block cfg large _ _ (by rw [(size_pred_toNat size file.some).1]; exact file.ends)

-- A file of three blocks.
def skipImage : Image := fun block off =>
  if block = 3 ∧ off = 0 then 2
  else if block = 4 ∧ off = 0 then 3
  else if block = 4 ∧ off = 4 then 2
  else 0

def skipNode (index : Nat) : UInt32 := UInt32.ofNat (index + 2)

theorem skip_file : CtzFile pageConfig none skipImage skipNode 2 4 1200 := by
  obtain ⟨-, -, start, after⟩ := page_starts
  have odd : Lib.trailing 1 = 0 := Lib.trailing_odd 0
  have even : Lib.trailing 2 = 1 := (Lib.trailing_double 1 (by decide)).trans (by rw [odd])
  refine ⟨by decide, ⟨by decide, fun current level positive inside few => ?_⟩, ?_, rfl⟩
  · interval_cases current
    · obtain rfl : level = 0 := by omega
      decide
    · rw [even] at few
      interval_cases level
      · decide
      · decide
  · have page : pageConfig.blockSize.toNat = 512 := rfl
    rw [page, InBlock, start, after]
    decide

theorem pow_toNat (level : UInt32) (small : level.toNat < 32) : ((1 : UInt32) <<< level).toNat = 2 ^ level.toNat := by
  have fits : 2 ^ level.toNat < 2 ^ 32 := Nat.pow_lt_pow_right (by decide) small
  rw [UInt32.toNat_shiftLeft, Nat.mod_eq_of_lt small, Nat.shiftLeft_eq, UInt32.toNat_one, Nat.one_mul, Nat.mod_eq_of_lt fits]

-- The level lfs_ctz_find takes is the longest link that does not go past the
-- target.
def findSkip (target current : UInt32) : UInt32 := lfsMin (lfsNpw2 (current - target + 1) - 1) (lfsCtz current)

theorem find_skip_toNat (target current : UInt32) (above : target < current) :
    (findSkip target current).toNat = Lib.skipLevel target.toNat current.toNat := by
  have less := UInt32.lt_iff_toNat_lt.mp above
  have distance : (current - target).toNat = current.toNat - target.toNat :=
    UInt32.toNat_sub_of_le _ _ (UInt32.le_iff_toNat_le.mpr (Nat.le_of_lt less))
  have back : current - target + 1 - 1 = current - target := UInt32.add_sub_cancel _ _
  have level := lfs_npw2_toNat (current - target + 1)
  rw [back, distance] at level
  have most : (lfsNpw2 (current - target + 1) - 1).toNat = (current.toNat - target.toNat).log2 := by
    rw [UInt32.toNat_sub_of_le _ _ (UInt32.le_iff_toNat_le.mpr (by rw [level]; exact Nat.le_add_left _ _)), level]
    rfl
  rw [findSkip, lfs_min_toNat, most, lfs_ctz_toNat, Lib.skipLevel]

theorem find_next_toNat (target current : UInt32) (above : target < current) :
    (current - (1 <<< findSkip target current)).toNat = Lib.skipNext target.toNat current.toNat := by
  have less := UInt32.lt_iff_toNat_lt.mp above
  have level := find_skip_toNat target current above
  have reach := Lib.skip_pow_le target.toNat current.toNat less
  have small : (findSkip target current).toNat < 32 := by
    rw [← Nat.pow_lt_pow_iff_right (a := 2) (by decide), level]
    have bound := current.toNat_lt
    omega
  have power := pow_toNat _ small
  rw [level] at power
  rw [UInt32.toNat_sub_of_le _ _ (UInt32.le_iff_toNat_le.mpr (by rw [power]; omega)), power, Lib.skipNext]

theorem find_loop_turn (target : UInt32) (turns : Nat) (current head : UInt32) (above : target < current) :
    ctzFindLoop target (turns + 1) current head = (do
      let (err, bytes) ← bdRead 4 head (4 * findSkip target current) (lfsTole32 head)
      if err ≠ 0 then
        return (err, lfsFromle32 bytes)
      ctzFindLoop target turns (current - (1 <<< findSkip target current)) (lfsFromle32 bytes)) := by
  rw [ctzFindLoop, if_pos above]
  rfl

theorem find_loop_there (target : UInt32) (turns : Nat) (current head : UInt32) (there : ¬ target < current) :
    ctzFindLoop target (turns + 1) current head = pure (0, head) := by
  rw [ctzFindLoop, if_neg there]

section
variable {δ : Type} (cfg : Config) (image : Image) (cb : Callback δ)

theorem link_read (pcache : Option Cache) (block : UInt32) (off : UInt32) (data : List UInt8) (present : block < cfg.blockCount)
    (fits : off.toNat + data.length ≤ cfg.blockSize.toNat) :
    directRead cfg image pcache block off data = (0, directBytes pcache image block off data.length) := by
  have small := cfg.blockSize.toNat_lt
  have inside : ¬ (block ≥ cfg.blockCount ∨ off + UInt32.ofNat data.length > cfg.blockSize) := by
    rintro (outside | beyond)
    · exact UInt32.not_le.mpr present outside
    · have more := UInt32.lt_iff_toNat_lt.mp beyond
      rw [offset_toNat off data.length (by omega)] at more
      omega
  rw [directRead, if_neg inside]

theorem find_loop_run (large : 128 ≤ cfg.blockSize.toNat) (node : Nat → UInt32) (count : Nat) (list : CtzList cfg none image node count)
    (target : UInt32) (lfs : LfsBase) (turns : Nat) : ∀ (current : UInt32) (state : δ), current.toNat < count → target ≤ current →
    current.toNat < turns + target.toNat → (ctzFindLoop target turns current (node current.toNat) lfs).run (directServer cfg image cb) state =
      some ((0, node target.toNat), state) := by
  induction turns with
  | zero =>
      intro current state inside least enough
      have order := UInt32.le_iff_toNat_le.mp least
      omega
  | succ turns ih =>
      intro current state inside least enough
      by_cases above : target < current
      · have less := UInt32.lt_iff_toNat_lt.mp above
        have level := find_skip_toNat target current above
        have next := find_next_toNat target current above
        have nextLeast := Lib.skip_next_least _ _ less
        have nextLess := Lib.skip_next_lt _ _ less
        have few : (findSkip target current).toNat < 32 := by
          rw [level]
          exact Nat.lt_of_le_of_lt (Nat.min_le_right _ _) (trailing_lt _ 32 (by omega) current.toNat_lt)
        have off : (4 * findSkip target current).toNat = 4 * (findSkip target current).toNat := by
          rw [UInt32.toNat_mul]
          simp only [UInt32.reduceToNat]
          omega
        have link : directRead cfg image none (node current.toNat) (4 * findSkip target current) (lfsTole32 (node current.toNat)) =
            (0, directBytes none image (node current.toNat) (4 * findSkip target current) 4) :=
          link_read cfg image none _ _ _ (list.inside _ inside) (by rw [off, lfsTole32]; simp only [List.length_cons, List.length_nil]; omega)
        have led : lfsFromle32 (directBytes none image (node current.toNat) (4 * findSkip target current) 4) =
            node (current - (1 <<< findSkip target current)).toNat := by
          have word : UInt32.ofNat (4 * (findSkip target current).toNat) = 4 * findSkip target current := by
            apply UInt32.toNat_inj.mp
            rw [off, UInt32.toNat_ofNat']
            omega
          have known := Lib.skip_next_node list.skips target.toNat current.toNat less inside
          rwa [ctzLink, ← level, word, ← next] at known
        have rest := ih (current - (1 <<< findSkip target current)) state (by omega)
          (UInt32.le_iff_toNat_le.mpr (by rw [next]; exact nextLeast)) (by omega)
        rw [find_loop_turn target turns _ _ above]
        rw [← led] at rest
        refine Eq.trans ?_ rest
        exact congrArg (fun served : Option ((Int32 × List UInt8) × δ) => served.bind fun served =>
          ((if served.1.1 ≠ 0 then pure (served.1.1, lfsFromle32 served.1.2)
            else ctzFindLoop target turns (current - (1 <<< findSkip target current)) (lfsFromle32 served.1.2) : BaseM _) lfs).run
              (directServer cfg image cb) served.2) (congrArg (fun read => some (read, state)) link)
      · have same : current = target := by
          apply UInt32.toNat_inj.mp
          have order := UInt32.le_iff_toNat_le.mp least
          have most : ¬ target.toNat < current.toNat := fun less => above (UInt32.lt_iff_toNat_lt.mpr less)
          omega
        rw [find_loop_there target turns _ _ above, same]
        rfl

-- lfs_ctz_find on a file of the card: the block and offset of the position.
theorem ctz_find_run (large : 128 ≤ cfg.blockSize.toNat) (node : Nat → UInt32) (last : Nat) (head size pos : UInt32)
    (file : CtzFile cfg none image node last head size) (inside : pos.toNat < size.toNat) (lfs : LfsBase) (state : δ) :
    (lfsCtzFind cfg head size pos lfs).run (directServer cfg image cb) state =
      some ((0, node (lfsCtzIndex cfg pos).toNat, lfsCtzOff cfg pos), state) := by
  have top := file_top cfg none image large node last head size file
  have order : (lfsCtzIndex cfg pos).toNat ≤ (lfsCtzIndex cfg (size - 1)).toNat := by
    have least := (ctz_index_inside cfg large pos).1
    have most := file.ends.2
    rw [top]
    by_contra more
    have start := ctz_start_mono cfg.blockSize.toNat (last + 1) (lfsCtzIndex cfg pos).toNat (by omega)
    omega
  have found := find_loop_run cfg image cb large node (last + 1) file.list (lfsCtzIndex cfg pos) lfs
    ((lfsCtzIndex cfg (size - 1)).toNat + 1) (lfsCtzIndex cfg (size - 1)) state (by omega) (UInt32.le_iff_toNat_le.mpr order) (by omega)
  rw [top, file.starts] at found
  rw [lfsCtzFind, if_neg file.some]
  refine (Lib.Prog.run_bind (directServer cfg image cb) (ctzFindLoop _ _ _ _ lfs) _ state).trans ?_
  rw [top, found]
  rfl

end

-- However the reads are answered, there are at most twice as many of them as
-- the distance has binary digits.
theorem find_loop_requests (target : UInt32) (lfs : LfsBase) (turns : Nat) : ∀ (current head : UInt32)
    (log : Lib.Prog.Log Request Request.Response) (result : Int32 × UInt32), (ctzFindLoop target turns current head lfs).Plays log result →
    log.length ≤ Lib.hopsLeft target.toNat current.toNat := by
  induction turns with
  | zero => exact fun _ _ log result played => absurd played (Lib.Prog.not_plays_stuck log result)
  | succ turns ih =>
      intro current head log result played
      by_cases above : target < current
      · have fewer := Lib.hops_left_next target.toNat current.toNat (UInt32.lt_iff_toNat_lt.mp above)
        rw [find_loop_turn target turns _ _ above] at played
        obtain ⟨answer, first, second, rfl, asked, rest⟩ := (Lib.Prog.plays_bind _ _ _ _).mp played
        obtain ⟨reply, _, rfl, ended⟩ := (Lib.Prog.plays_ask _ _ _ _).mp asked
        obtain ⟨rfl, -⟩ := (Lib.Prog.plays_done _ _ _).mp ended
        have short : second.length ≤ Lib.hopsLeft target.toNat (current - (1 <<< findSkip target current)).toNat := by
          by_cases failed : answer.1 = 0
          · simp only [failed, ne_eq, not_true_eq_false, ↓reduceIte] at rest
            exact ih _ _ second result rest
          · simp only [ne_eq, failed, not_false_eq_true, ↓reduceIte] at rest
            obtain ⟨rfl, -⟩ := (Lib.Prog.plays_done _ _ _).mp rest
            exact Nat.zero_le _
        rw [find_next_toNat target current above] at short
        rw [List.length_append, List.length_singleton]
        omega
      · rw [find_loop_there target turns _ _ above] at played
        obtain ⟨rfl, -⟩ := (Lib.Prog.plays_done _ _ _).mp played
        exact Nat.zero_le _

theorem ctz_find_requests (cfg : Config) (head size pos : UInt32) (lfs : LfsBase) (log : Lib.Prog.Log Request Request.Response)
    (result : Int32 × UInt32 × UInt32) (played : (lfsCtzFind cfg head size pos lfs).Plays log result) :
    log.length ≤ 2 * ((lfsCtzIndex cfg (size - 1)).toNat - (lfsCtzIndex cfg pos).toNat).log2 + 1 := by
  rw [lfsCtzFind] at played
  by_cases empty : size = 0
  · rw [if_pos empty] at played
    obtain ⟨rfl, -⟩ := (Lib.Prog.plays_done _ _ _).mp played
    exact Nat.zero_le _
  · rw [if_neg empty] at played
    obtain ⟨found, first, second, rfl, went, rest⟩ := (Lib.Prog.plays_bind _ _ _ _).mp played
    obtain ⟨rfl, -⟩ := (Lib.Prog.plays_done _ _ _).mp rest
    rw [List.append_nil]
    exact Nat.le_trans (find_loop_requests _ lfs _ _ _ first found went) (Lib.hops_left_le _ _)

-- lfs_ctz_find leads to the block and the offset of the position, and asks for
-- no more than two pointers for every binary digit of the distance.
theorem ctz_find_exact {δ : Type} (cfg : Config) (image : Image) (cb : Callback δ) (large : 128 ≤ cfg.blockSize.toNat) (node : Nat → UInt32)
    (last : Nat) (head size pos : UInt32) (file : CtzFile cfg none image node last head size) (inside : pos.toNat < size.toNat) (lfs : LfsBase) :
    (∀ state, (lfsCtzFind cfg head size pos lfs).run (directServer cfg image cb) state =
        some ((0, node (lfsCtzIndex cfg pos).toNat, lfsCtzOff cfg pos), state)) ∧
      ∀ log result, (lfsCtzFind cfg head size pos lfs).Plays log result → log.length ≤ 2 * (last - (lfsCtzIndex cfg pos).toNat).log2 + 1 := by
  refine ⟨ctz_find_run cfg image cb large node last head size pos file inside lfs, fun log result played => ?_⟩
  have few := ctz_find_requests cfg head size pos lfs log result played
  rwa [file_top cfg none image large node last head size file] at few

theorem skip_file_found : (∀ state, (lfsCtzFind pageConfig 4 1200 600 zeroLfs.toLfsBase).run
      (directServer pageConfig skipImage fun (log : List UInt32) block => (0, log ++ [block])) state = some ((0, 3, 92), state)) ∧
    ∀ log result, (lfsCtzFind pageConfig 4 1200 600 zeroLfs.toLfsBase).Plays log result → log.length ≤ 2 * (2 - 1).log2 + 1 := by
  have index : lfsCtzIndex pageConfig 600 = 1 := by decide
  have off : lfsCtzOff pageConfig 600 = 92 := by decide
  have found := ctz_find_exact pageConfig skipImage (fun (log : List UInt32) block => (0, log ++ [block])) (by decide) skipNode 2 4 1200 600
    skip_file (by decide) zeroLfs.toLfsBase
  rwa [index, off] at found

-- The blocks given to cb in turn, up to the first it does not take.
def reportEach {δ : Type} (cb : Callback δ) : List UInt32 → δ → Int32 × δ
  | [], state => (0, state)
  | block :: rest, state => if (cb state block).1 ≠ 0 then cb state block else reportEach cb rest (cb state block).2

-- The blocks of a list from one down to the first.
def ctzDown (node : Nat → UInt32) : Nat → List UInt32
  | 0 => [node 0]
  | index + 1 => node (index + 1) :: ctzDown node index

section
variable {δ : Type} (cfg : Config) (pcache : Option Cache) (image : Image) (cb : Callback δ)

theorem report_run (block : UInt32) (rest : BaseM Int32) (lfs : LfsBase) (state : δ) :
    ((do
      let err ← report block
      if err ≠ 0 then
        return err
      rest : BaseM Int32) lfs).run (directServer cfg image cb) state =
      if (cb state block).1 ≠ 0 then some (cb state block) else (rest lfs).run (directServer cfg image cb) (cb state block).2 := by
  refine (Lib.Prog.run_bind (directServer cfg image cb) (report block lfs) _ state).trans ?_
  have answered : (report block lfs).run (directServer cfg image cb) state = some (cb state block) := rfl
  rw [answered, Option.bind_some]
  by_cases failed : (cb state block).1 = 0
  · simp only [failed, ne_eq, not_true_eq_false, ↓reduceIte]
  · simp only [failed, ne_eq, not_false_eq_true, ↓reduceIte]
    rfl

theorem heads_run (large : 8 ≤ cfg.blockSize.toNat) (head : UInt32) (two : Bool) (present : head < cfg.blockCount) (lfs : LfsBase) (state : δ) :
    (readHeads pcache head two lfs).run (directServer cfg image cb) state =
      some ((0, directBytes pcache image head 0 (if two then 8 else 4)), state) := by
  have short : ∀ length, length ≤ 8 → directRead cfg image pcache head 0 (zeros length) = (0, directBytes pcache image head 0 length) := by
    intro length few
    have known := link_read cfg image pcache head 0 (zeros length) present (by simp only [zeros, List.length_replicate, UInt32.toNat_zero]; omega)
    rwa [zeros, List.length_replicate] at known
  cases pcache with
  | none =>
      cases two with
      | true => exact congrArg (fun read => some (read, state)) (short 8 (Nat.le_refl _))
      | false => exact congrArg (fun read => some (read, state)) (short 4 (by decide))
  | some pcache =>
      cases two with
      | true => exact congrArg (fun read => some (read, state)) (short 8 (Nat.le_refl _))
      | false => exact congrArg (fun read => some (read, state)) (short 4 (by decide))

theorem heads_words (head : UInt32) :
    directBytes pcache image head 0 8 = directBytes pcache image head 0 4 ++ directBytes pcache image head (UInt32.ofNat (4 * 1)) 4 := by
  exact direct_bytes_add pcache image head 0 4 4

theorem fromle32_append (first second : List UInt8) (four : first.length = 4) :
    lfsFromle32 (first ++ second) = lfsFromle32 first ∧ lfsFromle32 ((first ++ second).drop 4) = lfsFromle32 second := by
  refine ⟨?_, by rw [List.drop_left' four]⟩
  have before : ∀ p, p < 4 → (first ++ second).getD p 0 = first.getD p 0 := fun p small => by
    simp only [List.getD_eq_getElem?_getD, List.getElem?_append_left (by omega : p < first.length)]
  simp only [lfsFromle32, before 0 (by decide), before 1 (by decide), before 2 (by decide), before 3 (by decide)]

theorem report_each_cons (block : UInt32) (rest : List UInt32) (state : δ) :
    (if (cb state block).1 ≠ 0 then some (cb state block) else some (reportEach cb rest (cb state block).2)) =
      some (reportEach cb (block :: rest) state) := by
  rw [reportEach]
  exact (apply_ite some _ _ _).symm

theorem down_pred (node : Nat → UInt32) (index : UInt32) (some : index ≠ 0) :
    ctzDown node index.toNat = node index.toNat :: ctzDown node (index - 1).toNat := by
  obtain ⟨before, positive⟩ := size_pred_toNat index some
  obtain ⟨fewer, same⟩ : ∃ fewer, index.toNat = fewer + 1 := ⟨index.toNat - 1, by omega⟩
  rw [before, same]
  rfl

-- The first pointer of a block leads to the one before, the second to the one
-- before that; a block of an even number has both.
theorem first_pointer (node : Nat → UInt32) (count : Nat) (list : CtzList cfg pcache image node count) (index : UInt32) (some : index ≠ 0)
    (inside : index.toNat < count) : lfsFromle32 (directBytes pcache image (node index.toNat) 0 4) = node (index - 1).toNat := by
  obtain ⟨before, positive⟩ := size_pred_toNat index some
  have link := list.skips index.toNat 0 positive inside (Nat.zero_le _)
  have start : UInt32.ofNat 0 = 0 := rfl
  rwa [ctzLink, Nat.mul_zero, Nat.pow_zero, ← before, start] at link

theorem two_pointers (node : Nat → UInt32) (count : Nat) (list : CtzList cfg pcache image node count) (index : UInt32) (some : index ≠ 0)
    (inside : index.toNat < count) (even : index &&& 1 = 0) :
    index - 1 ≠ 0 ∧ index - 1 - 1 = index - 2 ∧ (index - 2).toNat + 2 = index.toNat ∧
      lfsFromle32 (directBytes pcache image (node index.toNat) 0 8) = node (index - 1).toNat ∧
      lfsFromle32 ((directBytes pcache image (node index.toNat) 0 8).drop 4) = node (index - 2).toNat := by
  obtain ⟨before, positive⟩ := size_pred_toNat index some
  have more : index - 1 ≠ 0 := by
    intro one
    have same : index = 1 := by rw [← UInt32.sub_add_cancel index 1, one, UInt32.zero_add]
    rw [same] at even
    exact absurd even (by decide)
  have pair : 2 ∣ index.toNat := by
    have bit := congrArg UInt32.toNat even
    rw [UInt32.toNat_and, UInt32.toNat_one, Nat.and_one_is_mod, UInt32.toNat_zero] at bit
    exact Nat.dvd_of_mod_eq_zero bit
  have longer : 1 ≤ Lib.trailing index.toNat := (padicValNat_dvd_iff_le (Nat.pos_iff_ne_zero.mp positive)).mp (by simpa using pair)
  have second := list.skips index.toNat 1 positive inside longer
  obtain ⟨again, left⟩ := size_pred_toNat (index - 1) more
  have twice : index - 1 - 1 = index - 2 := by grind
  rw [twice] at again
  have earlier : index.toNat - 2 ^ 1 = (index - 2).toNat := by omega
  obtain ⟨firstWord, secondWord⟩ := fromle32_append (directBytes pcache image (node index.toNat) 0 4)
    (directBytes pcache image (node index.toNat) (UInt32.ofNat (4 * 1)) 4) (direct_bytes_length _ _ _ _ _)
  rw [ctzLink, earlier] at second
  rw [heads_words, firstWord, secondWord]
  exact ⟨more, twice, by omega, first_pointer cfg pcache image node count list index some inside, second⟩

theorem ctz_traverse_loop_run (large : 8 ≤ cfg.blockSize.toNat) (node : Nat → UInt32) (count : Nat) (list : CtzList cfg pcache image node count)
    (lfs : LfsBase) (fuel : Nat) : ∀ (index : UInt32) (state : δ), index.toNat < count → index.toNat < fuel →
    (ctzTraverseLoop pcache fuel (node index.toNat) index lfs).run (directServer cfg image cb) state =
      some (reportEach cb (ctzDown node index.toNat) state) := by
  induction fuel with
  | zero => exact fun _ _ _ none => absurd none (Nat.not_lt_zero _)
  | succ fuel ih =>
      intro index state inside enough
      rw [ctzTraverseLoop, report_run]
      by_cases zero : index = 0
      · subst zero
        rw [if_pos rfl]
        exact report_each_cons cb (node 0) [] state
      · obtain ⟨before, positive⟩ := size_pred_toNat index zero
        have heads := fun two => heads_run cfg pcache image cb large (node index.toNat) two (list.inside _ inside) lfs (cb state (node index.toNat)).2
        rw [down_pred node index zero, ← report_each_cons, if_neg zero]
        refine if_congr Iff.rfl rfl ?_
        by_cases even : index &&& 1 = 0
        · obtain ⟨more, twice, again, first, second⟩ := two_pointers cfg pcache image node count list index zero inside even
          rw [if_pos even]
          refine (Lib.Prog.run_bind (directServer cfg image cb) (readHeads pcache (node index.toNat) true lfs) _ _).trans ?_
          rw [heads true, Option.bind_some, if_pos rfl]
          dsimp only
          refine (report_run cfg image cb _ _ lfs _).trans ?_
          rw [first, second, down_pred node (index - 1) more, twice, ← report_each_cons]
          exact if_congr Iff.rfl rfl (ih (index - 2) _ (by omega) (by omega))
        · rw [if_neg even]
          refine (Lib.Prog.run_bind (directServer cfg image cb) (readHeads pcache (node index.toNat) false lfs) _ _).trans ?_
          rw [heads false, Option.bind_some, if_neg Bool.false_ne_true]
          have next := ih (index - 1) (cb state (node index.toNat)).2 (by omega) (by omega)
          rw [← first_pointer cfg pcache image node count list index zero inside] at next
          exact next

end

theorem mem_down (node : Nat → UInt32) (block : UInt32) (index : Nat) : block ∈ ctzDown node index ↔ ∃ other ≤ index, node other = block := by
  induction index with
  | zero => simp [ctzDown, eq_comm]
  | succ index ih =>
      rw [ctzDown, List.mem_cons, ih]
      constructor
      · rintro (rfl | ⟨other, less, rfl⟩)
        · exact ⟨index + 1, Nat.le_refl _, rfl⟩
        · exact ⟨other, Nat.le_succ_of_le less, rfl⟩
      · rintro ⟨other, less, rfl⟩
        rcases Nat.eq_or_lt_of_le less with rfl | less
        · exact Or.inl rfl
        · exact Or.inr ⟨other, Nat.le_of_lt_succ less, rfl⟩

section
variable (cfg : Config) (pcache : Option Cache) (image : Image) (node : Nat → UInt32) (count : Nat) (list : CtzList cfg pcache image node count)
include list

theorem block_of_list (head index block : UInt32) (used : CtzBlock image pcache head index block) :
    index.toNat < count → head = node index.toNat → block ∈ ctzDown node index.toNat := by
  induction used with
  | head head index =>
      rintro - rfl
      exact (mem_down _ _ _).mpr ⟨index.toNat, Nat.le_refl _, rfl⟩
  | one head index block odd _ ih =>
      rintro inside rfl
      have some : index ≠ 0 := fun zero => odd (by rw [zero]; rfl)
      have earlier := ih (by have := (size_pred_toNat index some).1; omega) (first_pointer cfg pcache image node count list index some inside)
      rw [down_pred node index some]
      exact List.mem_cons_of_mem _ earlier
  | first head index some even =>
      rintro inside rfl
      obtain ⟨more, twice, again, first, second⟩ := two_pointers cfg pcache image node count list index some inside even
      rw [ctzPointers, first, down_pred node index some]
      exact List.mem_cons_of_mem _ ((mem_down _ _ _).mpr ⟨_, Nat.le_refl _, rfl⟩)
  | second head index block some even _ ih =>
      rintro inside rfl
      obtain ⟨more, twice, again, first, second⟩ := two_pointers cfg pcache image node count list index some inside even
      have earlier := ih (by omega) second
      rw [down_pred node index some, down_pred node (index - 1) more, twice]
      exact List.mem_cons_of_mem _ (List.mem_cons_of_mem _ earlier)

theorem list_of_block (top : Nat) : ∀ (index block : UInt32), index.toNat = top → top < count → block ∈ ctzDown node index.toNat →
    CtzBlock image pcache (node index.toNat) index block := by
  induction top using Nat.strong_induction_on with
  | _ top ih =>
      rintro index block rfl inside member
      by_cases zero : index = 0
      · subst zero
        obtain rfl := List.mem_singleton.mp member
        exact .head _ _
      · rw [down_pred node index zero] at member
        rcases List.mem_cons.mp member with rfl | member
        · exact .head _ _
        have before := size_pred_toNat index zero
        by_cases even : index &&& 1 = 0
        · obtain ⟨more, twice, again, first, second⟩ := two_pointers cfg pcache image node count list index zero inside even
          rw [down_pred node (index - 1) more, twice] at member
          rcases List.mem_cons.mp member with rfl | member
          · rw [← first]
            exact .first _ _ zero even
          · have earlier := ih (index - 2).toNat (by omega) (index - 2) block rfl (by omega) member
            rw [← second] at earlier
            exact .second _ _ _ zero even earlier
        · have earlier := ih (index - 1).toNat (by omega) (index - 1) block rfl (by omega) member
          rw [← first_pointer cfg pcache image node count list index zero inside] at earlier
          exact .one _ _ _ even earlier

end

section
variable {δ : Type} (cfg : Config) (pcache : Option Cache) (image : Image) (large : 128 ≤ cfg.blockSize.toNat) (node : Nat → UInt32) (last : Nat)
  (head size : UInt32) (file : CtzFile cfg pcache image node last head size)
include large file

theorem ctz_traverse_run (cb : Callback δ) (lfs : LfsBase) (state : δ) :
    (lfsCtzTraverse cfg pcache head size lfs).run (directServer cfg image cb) state = some (reportEach cb (ctzDown node last) state) := by
  have top := file_top cfg pcache image large node last head size file
  have went := ctz_traverse_loop_run cfg pcache image cb (by omega) node (last + 1) file.list lfs ((lfsCtzIndex cfg (size - 1)).toNat + 1)
    (lfsCtzIndex cfg (size - 1)) state (by omega) (Nat.lt_succ_self _)
  rw [lfsCtzTraverse, if_neg file.some]
  rw [top, file.starts] at went
  rwa [top]

theorem ctz_uses_iff (block : UInt32) : CtzUses cfg image pcache head size block ↔ block ∈ ctzDown node last := by
  have top := file_top cfg pcache image large node last head size file
  have starts := file.starts
  rw [CtzUses, ← starts, ← top]
  constructor
  · rintro ⟨-, used⟩
    exact block_of_list cfg pcache image node (last + 1) file.list _ _ block used (by omega) rfl
  · exact fun member => ⟨file.some, list_of_block cfg pcache image node (last + 1) file.list _ _ block rfl (by omega) member⟩

-- lfs_ctz_traverse reports the blocks of the file in turn, from the last to the
-- first, and these are the blocks the allocator counts as the file's.
theorem ctz_traverse_exact (cb : Callback δ) (lfs : LfsBase) (state : δ) :
    (lfsCtzTraverse cfg pcache head size lfs).run (directServer cfg image cb) state = some (reportEach cb (ctzDown node last) state) ∧
      ∀ block, CtzUses cfg image pcache head size block ↔ block ∈ ctzDown node last :=
  ⟨ctz_traverse_run cfg pcache image large node last head size file cb lfs state,
    ctz_uses_iff cfg pcache image large node last head size file⟩

end

theorem skip_file_traversed : (lfsCtzTraverse pageConfig none 4 1200 zeroLfs.toLfsBase).run
    (directServer pageConfig skipImage fun (log : List UInt32) block => (0, log ++ [block])) [] = some (0, [4, 3, 2]) ∧
    ∀ block, CtzUses pageConfig skipImage none 4 1200 block ↔ block ∈ [4, 3, 2] :=
  ctz_traverse_exact pageConfig none skipImage (by decide) skipNode 2 4 1200 skip_file (fun log block => (0, log ++ [block])) zeroLfs.toLfsBase []

-- The bytes of the first blocks of a file, the pointers left out.
def ctzData (image : Image) (node : Nat → UInt32) (size : Nat) : Nat → List UInt8
  | 0 => []
  | index + 1 => ctzData image node size index ++
      directBytes none image (node index) (UInt32.ofNat (4 * pointerWords index)) (ctzRoom size index)

theorem ctz_data_length (image : Image) (node : Nat → UInt32) (size count : Nat) :
    (ctzData image node size count).length = ctzStart size count := by
  induction count with
  | zero => rfl
  | succ count ih => rw [ctzData, List.length_append, ih, direct_bytes_length, ctzStart]

theorem ctz_data_take (image : Image) (node : Nat → UInt32) (size less : Nat) : ∀ (more : Nat), less ≤ more →
    (ctzData image node size more).take (ctzStart size less) = ctzData image node size less := by
  intro more
  induction more with
  | zero =>
      intro order
      have none : less = 0 := by omega
      rw [none]
      rfl
  | succ more ih =>
      intro order
      by_cases same : less = more + 1
      · rw [same, ← ctz_data_length image node size (more + 1), List.take_length]
      · have room : ctzStart size less ≤ (ctzData image node size more).length := by
          rw [ctz_data_length]
          exact ctz_start_mono size less more (by omega)
        rw [ctzData, List.take_append_of_le_length room, ih (by omega)]

-- A stretch of the file inside one block is that stretch of the block.
theorem ctz_data_slice (image : Image) (node : Nat → UInt32) (size count index pos length : Nat) (inside : InBlock size index pos)
    (stored : index < count) (fits : pos + length ≤ ctzStart size (index + 1)) :
    ((ctzData image node size count).drop pos).take length =
      directBytes none image (node index) (UInt32.ofNat (4 * pointerWords index + (pos - ctzStart size index))) length := by
  have least := inside.1
  have whole : ((ctzData image node size count).drop pos).take length = ((ctzData image node size (index + 1)).drop pos).take length := by
    have later := ctz_data_take image node size (index + 1) count (by omega)
    rw [← later, List.take_drop, List.take_drop, List.take_take, Nat.min_eq_left fits]
  obtain ⟨skip, rfl⟩ : ∃ skip, pos = ctzStart size index + skip := ⟨pos - ctzStart size index, by omega⟩
  have room : skip + length ≤ ctzRoom size index := by
    rw [ctzStart] at fits
    omega
  obtain ⟨rest, more⟩ : ∃ rest, ctzRoom size index = skip + (length + rest) := ⟨ctzRoom size index - skip - length, by omega⟩
  rw [whole, ctzData, ← ctz_data_length image node size index, List.drop_append, Nat.add_sub_cancel_left,
    List.drop_eq_nil_of_le (Nat.le_add_right _ _), List.nil_append, more, direct_bytes_drop, direct_bytes_take, UInt32.ofNat_add]

end SDCardFs.Littlefs
