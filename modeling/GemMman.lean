import GemMman.Basic
import GemMman.Data.RbTree
import GemMman.Data.ListCount
import GemMman.Registry.Attach
import GemMman.Registry.Records
import GemMman.Registry.Files
import GemMman.Fault.Resource
import GemMman.Fault.Gtt
import GemMman.Fault.Cpu
import GemMman.Fault.Access
import GemMman.Fault.Unwind
import GemMman.Revoke.Userfault
import GemMman.Revoke.Coverage
import GemMman.Mmap.Setup
import GemMman.Mmap.Ioctl
import GemMman.Mmap.References
import GemMman.Mmap.Areas
import GemMman.Mmap.Singleton
