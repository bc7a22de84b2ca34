import CivilTime.Calendar.Date
import CivilTime.Calendar.Day
import CivilTime.Calendar.DayNumber
import CivilTime.Calendar.Truncation
import CivilTime.Clock
import CivilTime.Error
import CivilTime.Interval
import CivilTime.Interval.Qualifier
import CivilTime.Literal
import CivilTime.Offset
import CivilTime.Pattern.Basic
import CivilTime.Pattern.Compile
import CivilTime.Pattern.Reader
import CivilTime.Proofs.AnnouncedLength
import CivilTime.Proofs.Calendar.Carry
import CivilTime.Proofs.Calendar.MarchYear
import CivilTime.Proofs.Calendar.NextDate
import CivilTime.Proofs.Calendar.Order
import CivilTime.Proofs.Calendar.RoundTrip
import CivilTime.Proofs.Calendar.Rules
import CivilTime.Proofs.Calendar.Truncation
import CivilTime.Proofs.Checked
import CivilTime.Proofs.Checked.DayNumber
import CivilTime.Proofs.Checked.Timestamp
import CivilTime.Proofs.Clock.Printer
import CivilTime.Proofs.Interval.DayTime
import CivilTime.Proofs.Interval.Qualifier
import CivilTime.Proofs.Interval.YearMonth
import CivilTime.Proofs.Literal.Date
import CivilTime.Proofs.Literal.Field
import CivilTime.Proofs.Literal.Outcome
import CivilTime.Proofs.Literal.Timestamp
import CivilTime.Proofs.Literal.Written
import CivilTime.Proofs.Offset
import CivilTime.Proofs.Padding
import CivilTime.Proofs.Pattern.Append
import CivilTime.Proofs.Pattern.Canonical
import CivilTime.Proofs.Pattern.Compile
import CivilTime.Proofs.Pattern.Fraction
import CivilTime.Proofs.Pattern.Grammar
import CivilTime.Proofs.Pattern.HalfUp
import CivilTime.Proofs.Pattern.Literal
import CivilTime.Proofs.Pattern.Number
import CivilTime.Proofs.Pattern.Position
import CivilTime.Proofs.Pattern.Precise
import CivilTime.Proofs.Pattern.Quote
import CivilTime.Proofs.Pattern.Render
import CivilTime.Proofs.Rounding
import CivilTime.Proofs.Rounding.Modes
import CivilTime.Proofs.Rounding.Order
import CivilTime.Proofs.Text.Bytes
import CivilTime.Proofs.Text.Cut
import CivilTime.Proofs.Text.Decimal
import CivilTime.Proofs.Text.Numeral
import CivilTime.Proofs.Text.Order
import CivilTime.Proofs.Timestamp
import CivilTime.Proofs.Timestamp.Printer
import CivilTime.Proofs.Unit
import CivilTime.Proofs.WallClock
import CivilTime.Rounding
import CivilTime.Text.Bytes
import CivilTime.Text.Cut
import CivilTime.Text.Decimal
import CivilTime.Timestamp
import CivilTime.Unit
import CivilTime.Unit.Unsupported
import CivilTime.WallClock
import CivilTime.Width
