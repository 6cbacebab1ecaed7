import SDCardFs.Littlefs.Aligned
import SDCardFs.Littlefs.Reading

set_option autoImplicit false

namespace SDCardFs.Littlefs

-- A read of a stretch of a block, through a cache, over a card that answers
-- from what its blocks hold.
theorem bd_read_run (cfg : Config) (image : Image) (paged : Paged cfg) (rcache : Cache) (hint block off : UInt32) (data : List UInt8)
    (hinting : Hinting hint) (noWrap : off.toNat + data.length < 2 ^ 32) (coherent : Coherent cfg image rcache) (aligned : Aligned cfg rcache) :
    ∃ after, (Calls.lfsBdRead cfg none rcache hint block off data).run (deviceServer (imageDevice image)) () =
      some ((directRead cfg image none block off data, after), ()) ∧ Coherent cfg image after ∧ Aligned cfg after := by
  have always := bd_read_aligned cfg none rcache hint block off data paged hinting noWrap nofun aligned
  have answers : ∀ request state, Access.Spans cfg request → (deviceServer (imageDevice image) request state).isSome := by
    intro request state _
    cases request with
    | _ => rfl
  obtain ⟨⟨answer, after⟩, final, ran, still⟩ := Lib.Prog.run_always answers _ () always
  have device := bd_read_device cfg (imageDevice image) none rcache hint block off data
  rw [ran] at device
  obtain ⟨⟨result, cache⟩, plain, same⟩ := Option.map_eq_some_iff.mp device.symm
  cases same
  obtain ⟨rfl, kept⟩ := bd_read_direct cfg image none rcache after hint block off data answer coherent (Or.inl rfl) plain
  exact ⟨after, ran, kept, still⟩

-- So for every function that reads in this way: its result does not depend on
-- the cache.
theorem through_run {α : Type} (cfg : Config) (image : Image) (paged : Paged cfg) (program : Lib.Prog Request Request.Response α) :
    ∀ (rcache : Cache), program.Always Request.Hinted (fun _ => True) → Coherent cfg image rcache → Aligned cfg rcache →
    ∃ result after, program.run (directServer cfg image fun state _ => (0, state)) () = some (result, ()) ∧
      (program.through (Calls.readServer cfg) rcache).run (deviceServer (imageDevice image)) () = some ((result, after), ()) ∧
      Coherent cfg image after ∧ Aligned cfg after := by
  induction program with
  | done result => exact fun rcache _ coherent aligned => ⟨result, rcache, rfl, rfl, coherent, aligned⟩
  | ask request next ih =>
      intro rcache hinted coherent aligned
      cases request with
      | read hint block off data =>
          obtain ⟨between, ran, still, kept⟩ :=
            bd_read_run cfg image paged rcache hint block off data hinted.1.1 hinted.1.2 coherent aligned
          obtain ⟨result, after, direct, rest, last⟩ := ih (directRead cfg image none block off data) between (hinted.2 _) still kept
          refine ⟨result, after, direct, ?_, last⟩
          refine (Lib.Prog.run_bind (deviceServer (imageDevice image)) (Calls.lfsBdRead cfg none rcache hint block off data) _ ()).trans ?_
          rw [ran]
          exact rest
      | readThrough pcache hint block data short => exact absurd hinted.1 id
      | zeroRcache => exact absurd hinted.1 id
      | report block => exact absurd hinted.1 id
      | stir crc => exact absurd hinted.1 id
  | stuck => exact fun _ hinted => absurd hinted id

section
variable {σ : Type}

-- A card whose reads give what its blocks hold and change nothing of it.
def Below.Holds (below : Below σ) (contents : σ → Image) : Prop :=
  ∀ block off size card, ∃ after, below.access (.read block off size) card =
    some (⟨0, size, fun p => contents card block (off + UInt32.ofNat p)⟩, after) ∧ contents after = contents card

variable (cfg : Config) (below : Below σ) (contents : σ → Image) (holds : below.Holds contents)
include holds

theorem card_run {α : Type} (call : DevM α) (only : call.Only Access.Reads) (card : σ) (result : α)
    (ran : call.run (deviceServer (imageDevice (contents card))) () = some (result, ())) :
    ∃ after, call.run below.access card = some (result, after) ∧ contents after = contents card := by
  have simulates : ∀ request (state : Unit) other answer after, Access.Reads request → contents other = contents card →
      deviceServer (imageDevice (contents card)) request state = some (answer, after) →
      ∃ last, below.access request other = some (answer, last) ∧ contents last = contents card := by
    intro request state other answer after reads same served
    cases request with
    | prog block off data => exact absurd reads id
    | read block off size =>
        cases served
        obtain ⟨last, answered, kept⟩ := holds block off size other
        rw [same] at answered kept
        exact ⟨last, answered, kept⟩
  exact Lib.Prog.run_only_simulates simulates call () () card result only rfl ran

end

end SDCardFs.Littlefs
