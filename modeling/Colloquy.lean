import Colloquy.Proofs.Conversation.Reply
import Colloquy.Script.Doctor
import Colloquy.Script.Token.Stream
import Colloquy.Proofs.Rulebook.Application
import Colloquy.Proofs.Rulebook.Calls
import Colloquy.Proofs.Conversation.References
import Colloquy.Proofs.Conversation.RedirectLimit
import Colloquy.Proofs.Text.Canonical
import Colloquy.Proofs.Conversation.Order
import Colloquy.Proofs.Pattern.Tagged
import Colloquy.Proofs.Script.WellFormed
import Colloquy.Proofs.Conversation.Selection
import Colloquy.Proofs.Conversation.Words
import Colloquy.Proofs.Text.Spacing
import Colloquy.Proofs.Text.CasePairs
import Colloquy.Proofs.Text.Capitals
import Colloquy.Proofs.Text.Recased
import Colloquy.Proofs.Conversation.Clean
import Colloquy.Proofs.Script.Nesting
import Colloquy.Proofs.Script.Layout
import Colloquy.Proofs.Script.Lookahead
import Colloquy.Proofs.Conversation.Spelling
import Colloquy.Proofs.Conversation.Fallback
import Colloquy.Proofs.Rulebook.Lookup
import Colloquy.Proofs.Memory.Datum
import Colloquy.Proofs.Memory.Hash
import Colloquy.Proofs.Pattern.Backtracking
