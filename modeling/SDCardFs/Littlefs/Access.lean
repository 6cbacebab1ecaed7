import SDCardFs.Lib.Plays
import SDCardFs.Littlefs.Metadata

set_option autoImplicit false

namespace SDCardFs.Littlefs

def lfsBlockInline : UInt32 := 0xFFFFFFFE

def lfsErrNotflushed : Int32 := -38

-- What the caching layer asks of cfg->read and cfg->prog.
inductive Access where
  | read (block off : UInt32) (size : Nat)
  | prog (block off : UInt32) (data : List UInt8)

def Access.Response : Access → Type
  | .read _ _ _ => ReadResult
  | .prog _ _ _ => Int32

abbrev DevM : Type → Type := Lib.Prog Access Access.Response

def devRead (block off : UInt32) (size : Nat) : DevM ReadResult := .ask (.read block off size) .done

def devProg (block off : UInt32) (data : List UInt8) : DevM Int32 := .ask (.prog block off data) .done

-- The functions of the caching layer over the accesses they make. The caches
-- they are given are returned as they leave them.
namespace Calls

def lfsBdReadLoop (cfg : Config) (pcache : Option Cache) (hint block : UInt32) :
    Nat → UInt32 → List UInt8 → Cache → DevM ((Int32 × List UInt8) × Cache)
  | _, _, [], rcache => pure ((0, []), rcache)
  | 0, _, _ :: _, _ => .stuck
  | fuel + 1, off, byte :: rest, rcache =>
      let data := byte :: rest
      match bdTurn cfg pcache rcache hint block off data.length with
      | .copy buffer start diff => do
          let ended ← lfsBdReadLoop cfg pcache hint block fuel (off + UInt32.ofNat diff) (data.drop diff) rcache
          return ((ended.1.1, Lib.slice buffer start diff ++ ended.1.2), ended.2)
      | .bypass diff => do
          let result ← devRead block off diff
          let filled := Lib.slice (result.into diff fun p => data.getD p 0) 0 diff
          if result.err ≠ 0 then
            return ((result.err, filled ++ data.drop diff), rcache)
          let ended ← lfsBdReadLoop cfg pcache hint block fuel (off + UInt32.ofNat diff) (data.drop diff) rcache
          return ((ended.1.1, filled ++ ended.1.2), ended.2)
      | .load =>
          if block ≥ cfg.blockCount then
            pure ((lfsErrNospc, data), rcache)
          else do
            let loaded := rcacheLoad cfg rcache hint block off
            let result ← devRead block loaded.off loaded.size.toNat
            let rcache := { loaded with buffer := result.into loaded.size.toNat loaded.buffer }
            if result.err ≠ 0 then
              return ((result.err, data), rcache)
            lfsBdReadLoop cfg pcache hint block fuel off data rcache

def lfsBdRead (cfg : Config) (pcache : Option Cache) (rcache : Cache) (hint block off : UInt32) (data : List UInt8) :
    DevM ((Int32 × List UInt8) × Cache) :=
  if block ≥ cfg.blockCount ∨ off + UInt32.ofNat data.length > cfg.blockSize then
    pure ((lfsErrCorrupt, data), rcache)
  else
    lfsBdReadLoop cfg pcache hint block (2 * data.length + 2) off data rcache

def readServer (cfg : Config) : (request : Request) → Cache → DevM (request.Response × Cache)
  | .read hint block off data, rcache => lfsBdRead cfg none rcache hint block off data
  | .readThrough pcache hint block data _, rcache => lfsBdRead cfg (some pcache) rcache hint block 0 data
  | .zeroRcache, rcache => pure ((), lfsCacheZero cfg rcache)
  | .report _, rcache => pure ((0 : Int32), rcache)
  | .stir _, rcache => pure ((), rcache)

def lfsCacheDrop (rcache : Cache) : Cache := { rcache with block := lfsBlockNull }

-- lfs_bd_cmp reads nothing of lfs.
def lfsBdCmp (cfg : Config) (rcache : Cache) (hint block off : UInt32) (buffer : List UInt8) : DevM (Int32 × Cache) :=
  (Littlefs.lfsBdCmp hint block off buffer zeroLfs.toLfsBase).through (readServer cfg) rcache

def lfsBdFlush (cfg : Config) (pcache rcache : Cache) (validate : Bool) : DevM (Int32 × Cache × Cache) :=
  if pcache.block ≠ lfsBlockNull ∧ pcache.block ≠ lfsBlockInline then
    if pcache.block ≥ cfg.blockCount then
      pure (lfsErrNospc, pcache, rcache)
    else do
      let diff := lfsAlignup pcache.size cfg.progSize
      let data := Lib.slice pcache.buffer 0 diff.toNat
      let err ← devProg pcache.block pcache.off data
      if err ≠ 0 then
        return (err, pcache, rcache)
      if validate then
        let (res, rcache) ← lfsBdCmp cfg (lfsCacheDrop rcache) diff pcache.block pcache.off data
        if res < 0 then
          return (res, pcache, rcache)
        if res ≠ lfsCmpEq then
          return (lfsErrCorrupt, pcache, rcache)
        return (0, lfsCacheZero cfg pcache, rcache)
      return (0, lfsCacheZero cfg pcache, rcache)
  else
    pure (0, pcache, rcache)

-- memcpy(&pcache->buffer[off-pcache->off], data, diff) and the new size
def progInto (pcache : Cache) (off : UInt32) (data : List UInt8) : Cache :=
  let start := (off - pcache.off).toNat
  { pcache with
    size := max pcache.size (off + UInt32.ofNat data.length - pcache.off)
    buffer := fun p => if start ≤ p ∧ p < start + data.length then data.getD (p - start) 0 else pcache.buffer p }

def lfsBdProgLoop (cfg : Config) (validate : Bool) (block : UInt32) :
    Nat → UInt32 → List UInt8 → Cache → Cache → DevM (Int32 × Cache × Cache)
  | _, _, [], pcache, rcache => pure (0, pcache, rcache)
  | 0, _, _ :: _, _, _ => .stuck
  | fuel + 1, off, byte :: rest, pcache, rcache =>
      let data := byte :: rest
      if block = pcache.block ∧ off ≥ pcache.off ∧ off < pcache.off + cfg.cacheSize then do
        let diff := min data.length (cfg.cacheSize - (off - pcache.off)).toNat
        let pcache := progInto pcache off (data.take diff)
        if pcache.size = cfg.cacheSize then
          let (err, pcache, rcache) ← lfsBdFlush cfg pcache rcache validate
          if err ≠ 0 then
            return (err, pcache, rcache)
          lfsBdProgLoop cfg validate block fuel (off + UInt32.ofNat diff) (data.drop diff) pcache rcache
        else
          lfsBdProgLoop cfg validate block fuel (off + UInt32.ofNat diff) (data.drop diff) pcache rcache
      else if pcache.block ≠ lfsBlockNull then
        pure (lfsErrNotflushed, pcache, rcache)
      else
        lfsBdProgLoop cfg validate block fuel off data
          { pcache with block := block, off := lfsAligndown off cfg.progSize, size := 0 } rcache

def lfsBdProg (cfg : Config) (pcache rcache : Cache) (validate : Bool) (block off : UInt32) (data : List UInt8) :
    DevM (Int32 × Cache × Cache) :=
  if off + UInt32.ofNat data.length > cfg.blockSize then
    pure (lfsErrNospc, pcache, rcache)
  else
    lfsBdProgLoop cfg validate block (2 * data.length + 2) off data pcache rcache

end Calls

-- A device that is only read answers the accesses as it answers lfs_bd_read.
def deviceServer (device : Device) : Lib.Prog.Server Access Access.Response Unit
  | .read block off size, _ => (device block off size).map fun result => (result, ())
  | .prog _ _ _, _ => some ((0 : Int32), ())

theorem dev_read_run (device : Device) (block off : UInt32) (size : Nat) :
    (devRead block off size).run (deviceServer device) () = (device block off size).map fun result => (result, ()) := by
  simp only [devRead, Lib.Prog.run, deviceServer]
  cases device block off size with
  | none => rfl
  | some result => rfl

theorem read_loop_device (cfg : Config) (device : Device) (pcache : Option Cache) (hint block : UInt32) (fuel : Nat) :
    ∀ (off : UInt32) (data : List UInt8) (rcache : Cache),
    (Calls.lfsBdReadLoop cfg pcache hint block fuel off data rcache).run (deviceServer device) () =
      (lfsBdReadLoop cfg device pcache hint block fuel off data rcache).map fun ended => (ended, ()) := by
  induction fuel with
  | zero =>
      intro off data rcache
      cases data with
      | nil => rfl
      | cons byte rest => rfl
  | succ fuel ih =>
      intro off data rcache
      cases data with
      | nil => rfl
      | cons byte rest =>
          rw [Calls.lfsBdReadLoop, lfsBdReadLoop]
          cases bdTurn cfg pcache rcache hint block off (byte :: rest).length with
          | copy buffer start diff =>
              simp only [Lib.Prog.run_bind, ih, Option.map_map, Option.bind_map]
              cases lfsBdReadLoop cfg device pcache hint block fuel (off + UInt32.ofNat diff) ((byte :: rest).drop diff) rcache with
              | none => rfl
              | some ended => rfl
          | bypass diff =>
              simp only [Lib.Prog.run_bind, dev_read_run]
              cases device block off diff with
              | none => rfl
              | some result =>
                  simp only [Option.map_some, Option.bind_some]
                  by_cases failed : result.err = 0
                  · simp only [failed, ne_eq, not_true_eq_false, ↓reduceIte, Lib.Prog.run_bind, ih]
                    cases lfsBdReadLoop cfg device pcache hint block fuel (off + UInt32.ofNat diff) ((byte :: rest).drop diff) rcache with
                    | none => rfl
                    | some ended => rfl
                  · simp only [failed, ne_eq, not_false_eq_true, ↓reduceIte]
                    rfl
          | load =>
              by_cases outside : block ≥ cfg.blockCount
              · simp only [outside, ↓reduceIte]
                rfl
              · simp only [outside, ↓reduceIte, Lib.Prog.run_bind, dev_read_run]
                cases device block (rcacheLoad cfg rcache hint block off).off (rcacheLoad cfg rcache hint block off).size.toNat with
                | none => rfl
                | some result =>
                    simp only [Option.map_some, Option.bind_some]
                    by_cases failed : result.err = 0
                    · simp only [failed, ne_eq, not_true_eq_false, ↓reduceIte, ih]
                    · simp only [failed, ne_eq, not_false_eq_true, ↓reduceIte]
                      rfl

-- Over a device that only depends on the address this is the lfs_bd_read of
-- the mounted file system.
theorem bd_read_device (cfg : Config) (device : Device) (pcache : Option Cache) (rcache : Cache) (hint block off : UInt32) (data : List UInt8) :
    (Calls.lfsBdRead cfg pcache rcache hint block off data).run (deviceServer device) () =
      (lfsBdRead cfg device pcache rcache hint block off data).map fun ended => (ended, ()) := by
  rw [Calls.lfsBdRead, lfsBdRead]
  split
  · rfl
  · exact read_loop_device cfg device pcache hint block _ off data rcache

end SDCardFs.Littlefs
