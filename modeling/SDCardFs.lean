import SDCardFs.Lib.Ends
import SDCardFs.Lib.Runs
import SDCardFs.Lib.Prog
import SDCardFs.Lib.Plays
import SDCardFs.Lib.Resume
import SDCardFs.Lib.Bytes
import SDCardFs.Lib.Bitmap
import SDCardFs.Lib.BigEndian
import SDCardFs.Lib.Gf2
import SDCardFs.Lib.Links
import SDCardFs.Lib.Keeping
import SDCardFs.Lib.Bits
import SDCardFs.Lib.SkipList
import SDCardFs.Lib.Edits
import SDCardFs.Lib.Framing
import SDCardFs.Driver.Card
import SDCardFs.Driver.Command
import SDCardFs.Driver.Causal
import SDCardFs.Driver.Blocks
import SDCardFs.Driver.Answers
import SDCardFs.Driver.Init
import SDCardFs.Driver.Calls
import SDCardFs.Driver.Wire
import SDCardFs.Driver.Telling
import SDCardFs.Driver.Program
import SDCardFs.Driver.Read
import SDCardFs.Driver.Handshake
import SDCardFs.Driver.Lifecycle
import SDCardFs.Driver.ChipSelect
import SDCardFs.Driver.Accepting
import SDCardFs.Driver.Timely
import SDCardFs.Driver.Waiting
import SDCardFs.Driver.Capacity
import SDCardFs.Driver.Reachable
import SDCardFs.Driver.Bounds
import SDCardFs.Driver.Transfers
import SDCardFs.Driver.Response
import SDCardFs.Driver.Erase
import SDCardFs.Driver.Frames
import SDCardFs.Driver.Crc7
import SDCardFs.Littlefs.Types
import SDCardFs.Littlefs.BlockDevice
import SDCardFs.Littlefs.Coherent
import SDCardFs.Littlefs.Metadata
import SDCardFs.Littlefs.Access
import SDCardFs.Littlefs.Aligned
import SDCardFs.Littlefs.Stale
import SDCardFs.Littlefs.Traverse
import SDCardFs.Littlefs.Returns
import SDCardFs.Littlefs.Alloc
import SDCardFs.Littlefs.Lookahead
import SDCardFs.Littlefs.Mount
import SDCardFs.Littlefs.Scan
import SDCardFs.Littlefs.InUse
import SDCardFs.Littlefs.Window
import SDCardFs.Littlefs.Refill
import SDCardFs.Littlefs.CallsMatch
import SDCardFs.Littlefs.Counters
import SDCardFs.Littlefs.FsSize
import SDCardFs.Littlefs.Paths
import SDCardFs.Littlefs.Handles
import SDCardFs.Littlefs.Files
import SDCardFs.Littlefs.FileCalls
import SDCardFs.Littlefs.Directories
import SDCardFs.Littlefs.Listed
import SDCardFs.Littlefs.Reading
import SDCardFs.Littlefs.ReadOnly
import SDCardFs.Littlefs.CtzBits
import SDCardFs.Littlefs.Ctz
import SDCardFs.Littlefs.CtzList
import SDCardFs.Littlefs.CardReads
import SDCardFs.Littlefs.Cursor
import SDCardFs.Littlefs.Log
import SDCardFs.Littlefs.Words
import SDCardFs.Littlefs.Tags
import SDCardFs.Littlefs.Fetch
import SDCardFs.Littlefs.Lookup
import SDCardFs.Littlefs.OpenReader
import SDCardFs.Littlefs.Readers
import SDCardFs.Littlefs.Survival
import SDCardFs.Littlefs.Encode
import SDCardFs.Littlefs.Stored
import SDCardFs.Littlefs.Commit
import SDCardFs.Littlefs.ProgCache
import SDCardFs.Littlefs.Committing
import SDCardFs.Littlefs.Closing
import SDCardFs.Littlefs.DirTraverse
import SDCardFs.Littlefs.Append
import SDCardFs.Wrapper.Task
import SDCardFs.Wrapper.MountAsync
import SDCardFs.Wrapper.Frame
import SDCardFs.Wrapper.Status
import SDCardFs.Wrapper.Geometry
import SDCardFs.Wrapper.CardCalls
import SDCardFs.Wrapper.LookaheadBits
import SDCardFs.Wrapper.Allocation
import SDCardFs.Wrapper.Handles
import SDCardFs.Wrapper.Opening
import SDCardFs.Wrapper.Statvfs
import SDCardFs.Wrapper.ReadOnly
