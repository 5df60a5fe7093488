import Triword.Main
import Triword.Proofs.Action
import Triword.Proofs.Adder
import Triword.Proofs.Memory
import Triword.Proofs.Address
import Triword.Proofs.Mmu.Access
import Triword.Proofs.Cpu.Effect
import Triword.Proofs.Cpu.Execute
import Triword.Proofs.Cpu.Cycle
import Triword.Proofs.Control
import Triword.Proofs.Cpu.Arithmetic
import Triword.Proofs.Cpu.Ordinary
import Triword.Proofs.Cpu.Commit
import Triword.Proofs.Cpu.Failure
import Triword.Proofs.Cpu.UserMode
import Triword.Proofs.Mmu.Agreement
import Triword.Proofs.Cpu.Isolation
import Triword.Proofs.Alu
import Triword.Proofs.Bits.Shift
import Triword.Proofs.Alu.Product
import Triword.Proofs.Cpu.Division
import Triword.Proofs.Cpu.Comparison
import Triword.Proofs.Mmu.Word
import Triword.Proofs.Mmu.Write
import Triword.Proofs.Regex.Passes
import Triword.Proofs.Regex.Code
import Triword.Proofs.Regex.Search
import Triword.Proofs.Regex.Groups
import Triword.Proofs.Regex.Room
import Triword.Proofs.Language.Variants
import Triword.Proofs.Language.Bundled
import Triword.Proofs.Language.Operands
import Triword.Proofs.Instruction
import Triword.Proofs.Assembly.Token
import Triword.Proofs.Assembly.Encode
import Triword.Proofs.Cpu.Blame
import Triword.Proofs.Cpu.Fetch
import Triword.Proofs.Cpu.Load
import Triword.Proofs.Cpu.Program
import Triword.Proofs.Cpu.RoundTrip
import Triword.Proofs.Mmu.Translate
import Triword.Proofs.Cpu.Confinement
import Triword.Proofs.Assembly.Labels
import Triword.Proofs.Alike
import Triword.Proofs.LabelTable
import Triword.Proofs.Assembly.Relocation
import Triword.Proofs.Text.Utf8
import Triword.Proofs.Text.Lines
import Triword.Proofs.Text.Occurrence
import Triword.Proofs.Text.Numeral
import Triword.Proofs.Object.Block
import Triword.Proofs.Object.Binary
import Triword.Proofs.Object.Listing
import Triword.Proofs.Language.Lines
import Triword.Proofs.Assembly.Source
import Triword.Proofs.CommandLine.Input
import Triword.Proofs.Memory.History
import Triword.Proofs.Cpu.Run
import Triword.Proofs.Language.Spelling
import Triword.Proofs.Assembly.Recognition
import Triword.Proofs.Assembly.Disassembly
import Triword.Proofs.Memory.Word
import Triword.Proofs.Cpu.Return
import Triword.Proofs.Mmu.Accounting
import Triword.Proofs.Cpu.Accounting
import Triword.Proofs.Cpu.Computation
import Triword.Proofs.Cpu.Stack
import Triword.Proofs.Cpu.Course
import Triword.Proofs.Cpu.Frames
import Triword.Proofs.Cpu.Pause
import Triword.Proofs.Alu.Shift
import Triword.Proofs.Assembly.Literal
import Triword.Proofs.Cpu.Segment
import Triword.Proofs.Regex.Renumber
import Triword.Proofs.Regex.Local
import Triword.Proofs.Regex.Brackets
import Triword.Proofs.Regex.GroupStart
import Triword.Proofs.Regex.Embedding
import Triword.Proofs.Regex.Slots
import Triword.Proofs.Language.Layout
import Triword.Proofs.Language.Capture
import Triword.Proofs.Mmu.Read
import Triword.Proofs.Adder.Value
import Triword.Proofs.Object.Truncation
import Triword.Proofs.Regex.Leftmost
import Triword.Proofs.Language.Comments
import Triword.Proofs.Assembly.Edits
import Triword.Proofs.Bits.Integer
