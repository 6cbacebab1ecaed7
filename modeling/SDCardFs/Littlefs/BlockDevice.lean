import Mathlib.Algebra.Group.Nat.Defs
import SDCardFs.Lib.Bytes
import SDCardFs.Lib.Prog
import SDCardFs.Littlefs.Types

set_option autoImplicit false

namespace SDCardFs.Littlefs

-- What a read of the device left: its status and the leading bytes it wrote.
structure ReadResult where
  err : Int32
  filled : Nat
  byte : Nat → UInt8

-- By block, offset and size; none is a read that does not return.
abbrev Device : Type := UInt32 → UInt32 → Nat → Option ReadResult

def ReadResult.into (result : ReadResult) (size : Nat) (buffer : Nat → UInt8) : Nat → UInt8 := fun p =>
  if p < result.filled ∧ p < size then result.byte p else buffer p

-- What the blocks hold, by block and offset, and the card that answers every
-- read from it.
abbrev Image : Type := UInt32 → UInt32 → UInt8

def imageDevice (image : Image) : Device := fun block off size => some ⟨0, size, fun p => image block (off + UInt32.ofNat p)⟩

def lfsCacheZero (cfg : Config) (cache : Cache) : Cache :=
  { cache with block := lfsBlockNull, buffer := fun p => if p < cfg.cacheSize.toNat then 0xff else cache.buffer p }

inductive BdTurn where
  | copy (buffer : Nat → UInt8) (start diff : Nat)
  | bypass (diff : Nat)
  | load

def Cache.covers (cache : Cache) (block off : UInt32) : Bool := block = cache.block ∧ off < cache.off + cache.size

def Cache.copy (cache : Cache) (off : UInt32) (diff : Nat) : BdTurn :=
  .copy cache.buffer (off - cache.off).toNat (min diff (cache.size - (off - cache.off)).toNat)

def bdTurnRcache (cfg : Config) (rcache : Cache) (hint block off : UInt32) (size diff : Nat) : BdTurn :=
  if rcache.covers block off ∧ off ≥ rcache.off then
    rcache.copy off diff
  else
    let diff := if rcache.covers block off then min diff (rcache.off - off).toNat else diff
    if size ≥ hint.toNat ∧ off % cfg.readSize = 0 ∧ size ≥ cfg.readSize.toNat then
      .bypass (diff - diff % cfg.readSize.toNat)
    else
      .load

def bdTurn (cfg : Config) (pcache : Option Cache) (rcache : Cache) (hint block off : UInt32) (size : Nat) : BdTurn :=
  match pcache with
  | none => bdTurnRcache cfg rcache hint block off size size
  | some pcache =>
      if pcache.covers block off ∧ off ≥ pcache.off then
        pcache.copy off size
      else
        bdTurnRcache cfg rcache hint block off size (if pcache.covers block off then min size (pcache.off - off).toNat else size)

def rcacheLoad (cfg : Config) (rcache : Cache) (hint block off : UInt32) : Cache :=
  let start := lfsAligndown off cfg.readSize
  { rcache with
    block := block
    off := start
    size := lfsMin (lfsMin (lfsAlignup (off + hint) cfg.readSize) cfg.blockSize - start) cfg.cacheSize }

-- The status, what the destination then holds, and the read cache. A loop that
-- makes no progress in one turn makes none in the next but for a load, so more
-- than two turns a byte is a loop without end.
def lfsBdReadLoop (cfg : Config) (device : Device) (pcache : Option Cache) (hint block : UInt32) :
    Nat → UInt32 → List UInt8 → Cache → Option ((Int32 × List UInt8) × Cache)
  | _, _, [], rcache => some ((0, []), rcache)
  | 0, _, _ :: _, _ => none
  | fuel + 1, off, byte :: rest, rcache =>
      let data := byte :: rest
      match bdTurn cfg pcache rcache hint block off data.length with
      | .copy buffer start diff =>
          (lfsBdReadLoop cfg device pcache hint block fuel (off + UInt32.ofNat diff) (data.drop diff) rcache).map fun ended =>
            ((ended.1.1, Lib.slice buffer start diff ++ ended.1.2), ended.2)
      | .bypass diff =>
          (device block off diff).bind fun result =>
            let filled := Lib.slice (result.into diff fun p => data.getD p 0) 0 diff
            if result.err ≠ 0 then
              some ((result.err, filled ++ data.drop diff), rcache)
            else
              (lfsBdReadLoop cfg device pcache hint block fuel (off + UInt32.ofNat diff) (data.drop diff) rcache).map fun ended =>
                ((ended.1.1, filled ++ ended.1.2), ended.2)
      | .load =>
          if block ≥ cfg.blockCount then
            some ((lfsErrNospc, data), rcache)
          else
            let loaded := rcacheLoad cfg rcache hint block off
            (device block loaded.off loaded.size.toNat).bind fun result =>
              let rcache := { loaded with buffer := result.into loaded.size.toNat loaded.buffer }
              if result.err ≠ 0 then
                some ((result.err, data), rcache)
              else
                lfsBdReadLoop cfg device pcache hint block fuel off data rcache

-- data is the destination as it is before the call.
def lfsBdRead (cfg : Config) (device : Device) (pcache : Option Cache) (rcache : Cache) (hint block off : UInt32) (data : List UInt8) :
    Option ((Int32 × List UInt8) × Cache) :=
  if block ≥ cfg.blockCount ∨ off + UInt32.ofNat data.length > cfg.blockSize then
    some ((lfsErrCorrupt, data), rcache)
  else
    lfsBdReadLoop cfg device pcache hint block (2 * data.length + 2) off data rcache

-- What the code above the caches asks for: reads, a report to cb, and crc
-- for the seed, which lift answers and no server needs to. A read through a program cache
-- always starts at offset zero and is a few words long.
inductive Request where
  | read (hint block off : UInt32) (data : List UInt8)
  | readThrough (pcache : Cache) (hint block : UInt32) (data : List UInt8) (short : data.length < 2 ^ 32)
  | zeroRcache
  | report (block : UInt32)
  | stir (crc : UInt32)

def Request.Response : Request → Type
  | .read _ _ _ _ => Int32 × List UInt8
  | .readThrough _ _ _ _ _ => Int32 × List UInt8
  | .zeroRcache => Unit
  | .report _ => Int32
  | .stir _ => Unit

abbrev Callback (δ : Type) : Type := δ → UInt32 → Int32 × δ

def cachedServer {δ : Type} (cfg : Config) (device : Device) (cb : Callback δ) : Lib.Prog.Server Request Request.Response (Cache × δ)
  | .read hint block off data, (rcache, state) =>
      (lfsBdRead cfg device none rcache hint block off data).map fun answer => (answer.1, (answer.2, state))
  | .readThrough pcache hint block data _, (rcache, state) =>
      (lfsBdRead cfg device (some pcache) rcache hint block 0 data).map fun answer => (answer.1, (answer.2, state))
  | .zeroRcache, (rcache, state) => some ((), (lfsCacheZero cfg rcache, state))
  | .report block, (rcache, state) => some ((cb state block).1, (rcache, (cb state block).2))
  | .stir _, state => some ((), state)

-- What reads lfs and writes nothing of it but the seed.
abbrev BaseM : Type → Type := ReaderT LfsBase (Lib.Prog Request Request.Response)

abbrev LfsM : Type → Type := StateT Lfs (Lib.Prog Request Request.Response)

def request (asked : Request) : BaseM asked.Response := fun _ => .ask asked .done

def endless {α : Type} : BaseM α := fun _ => .stuck

def bdRead (hint block off : UInt32) (data : List UInt8) : BaseM (Int32 × List UInt8) := request (.read hint block off data)

def bdReadThrough (pcache : Cache) (hint block : UInt32) (data : List UInt8) (short : data.length < 2 ^ 32) : BaseM (Int32 × List UInt8) :=
  request (.readThrough pcache hint block data short)

def report (block : UInt32) : BaseM Int32 := request (.report block)

def stir (crc : UInt32) : BaseM Unit := request (.stir crc)

def seedHandler : Lib.Prog.Handler Request Request.Response UInt32
  | .stir crc => some fun seed => ((), seed ^^^ crc)
  | _ => none

def lift {α : Type} (call : BaseM α) : LfsM α := fun lfs =>
  (fun ran => (ran.1, { lfs with seed := ran.2 })) <$> (call lfs.toLfsBase).handle seedHandler lfs.seed

theorem lift_map {α β : Type} (change : α → β) (call : BaseM α) : lift (change <$> call) = change <$> lift call := by
  funext lfs
  have inside : (change <$> call) lfs.toLfsBase = change <$> call lfs.toLfsBase := rfl
  have outside : (change <$> lift call) lfs = (fun ran => (change ran.1, ran.2)) <$> lift call lfs := by
    rw [map_eq_pure_bind, map_eq_pure_bind]
    rfl
  rw [outside, lift, lift, inside, map_eq_pure_bind change, Lib.Prog.handle_bind]
  simp only [map_eq_pure_bind, bind_assoc]
  rfl

def zeros (length : Nat) : List UInt8 := List.replicate length 0

end SDCardFs.Littlefs
