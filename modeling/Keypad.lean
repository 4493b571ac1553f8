import Keypad.Main
import Keypad.Session.Handle
import Keypad.Session.Timeline
import Keypad.Proofs.Expression.Chain
import Keypad.Proofs.Expression.Precedence
import Keypad.Proofs.Expression.Reading
import Keypad.Proofs.Readout.Shape
import Keypad.Proofs.Entry.Grammar
import Keypad.Proofs.Entry.Editing
import Keypad.Proofs.Entry.Exclusions
import Keypad.Proofs.Number.Double
import Keypad.Proofs.Number.Sign
import Keypad.Proofs.Number.Ratio
import Keypad.Proofs.Number.Nearest
import Keypad.Proofs.Display.Soundness
import Keypad.Proofs.Entry.Typing
import Keypad.Proofs.Expression.LeadingZero
import Keypad.Proofs.Display.Typing
import Keypad.Proofs.Numeral.Literal
import Keypad.Proofs.Expression.Scanning
import Keypad.Proofs.Session.Commands
import Keypad.Proofs.Session.Dialogue
import Keypad.Proofs.Session.Pinning
import Keypad.Proofs.Session.Waiting
import Keypad.Proofs.Session.Restarting
import Keypad.Proofs.Session.Chronicle
import Keypad.Proofs.Session.Mailbox
import Keypad.Proofs.Session.Caching
import Keypad.Proofs.Readout.Amount
import Keypad.Proofs.Session.Repricing
import Keypad.Proofs.Key.Marks
import Keypad.Proofs.Session.Settling
import Keypad.Proofs.Session.Typing
import Keypad.Proofs.Console.Arguments
import Keypad.Proofs.Console.Lines
import Keypad.Proofs.Console.Choosing
import Keypad.Proofs.Expression.Balance
import Keypad.Proofs.Expression.Acceptance
import Keypad.Proofs.Numeral.Denoted
import Keypad.Proofs.Number.Scientific
import Keypad.Proofs.Readout.Notation
import Keypad.Proofs.Readout.Accuracy
import Keypad.Proofs.Number.Unit
import Keypad.Proofs.Console.BaseRate
import Keypad.Proofs.Display.Undoing
import Keypad.Proofs.Entry.Amount
import Keypad.Proofs.Session.Offering
import Keypad.Proofs.Number.Rounding
import Keypad.Proofs.Readout.Form
import Keypad.Proofs.Readout.Rereading
import Keypad.Proofs.Display.Repeating
import Keypad.Proofs.Expression.Reuse
import Keypad.Proofs.Currency.Aging
import Keypad.Proofs.Currency.Planning
import Keypad.Proofs.Currency.Requoting
import Keypad.Proofs.Expression.Faults
import Keypad.Proofs.Expression.Waiting
import Keypad.Proofs.Display.OpenNumeral
