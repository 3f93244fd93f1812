import MailSearch.Main
import MailSearch.Search.Encoding
import MailSearch.Proofs.Json.RoundTrip
import MailSearch.Proofs.Query.Coverage
import MailSearch.Proofs.Calendar.DayNumber
import MailSearch.Proofs.Calendar.ReadBack
import MailSearch.Proofs.Calendar.Steps
import MailSearch.Proofs.Calendar.StoredOrder
import MailSearch.Proofs.Calendar.WrittenYears
import MailSearch.Proofs.Clause.Agreement
import MailSearch.Proofs.Mail.RoundTrip
import MailSearch.Proofs.Query.Values
import MailSearch.Proofs.Search.Agreement
import MailSearch.Proofs.Search.CacheKey
import MailSearch.Proofs.Search.CachedPage
import MailSearch.Proofs.Search.Isolation
import MailSearch.Proofs.Clause.Stored
import MailSearch.Proofs.Query.Kept
import MailSearch.Proofs.Search.Readable
import MailSearch.Proofs.Search.Paging
import MailSearch.Proofs.Query.Grammar
import MailSearch.Proofs.Search.Repeating
import MailSearch.Proofs.Clause.Marks
import MailSearch.Proofs.Clause.Values
import MailSearch.Proofs.Data.Sorting
import MailSearch.Proofs.Search.OneUser
import MailSearch.Proofs.Search.Independence
import MailSearch.Proofs.Query.Parts
import MailSearch.Proofs.Query.Suggestions
import MailSearch.Proofs.Query.Durations
import MailSearch.Proofs.Search.Suggestions
import MailSearch.Proofs.Search.SuggestionList
import MailSearch.Proofs.Search.CacheCalls
import MailSearch.Proofs.Search.TimedMap
import MailSearch.Proofs.Store.Integrity
import MailSearch.Proofs.Store.Inserting
import MailSearch.Proofs.Store.TopValues
import MailSearch.Proofs.Store.Transaction
import MailSearch.Proofs.Search.DayRange
import MailSearch.Proofs.Text.Verbatim
import MailSearch.Proofs.Text.Bytes
import MailSearch.Proofs.Search.Verbatim
import MailSearch.Proofs.Search.PastEnd
import MailSearch.Proofs.Query.Negation
import MailSearch.Proofs.Search.Negation
import MailSearch.Proofs.Query.Appending
import MailSearch.Proofs.Query.Repeated
import MailSearch.Proofs.Search.AddedTerms
import MailSearch.Proofs.Search.Alternatives
import MailSearch.Proofs.Search.EmptyPages
import MailSearch.Proofs.Report.Lines
import MailSearch.Proofs.Query.Echo
import MailSearch.Proofs.Search.DayTerms
import MailSearch.Proofs.Store.Opening
import MailSearch.Proofs.Clause.Containment
import MailSearch.Proofs.Query.Emptiness
import MailSearch.Proofs.Search.EmptyQuery
import MailSearch.Proofs.Query.Sizes
import MailSearch.Proofs.Query.ReadDays
import MailSearch.Proofs.Clause.Pieces
import MailSearch.Proofs.Clause.Fitting
import MailSearch.Proofs.Search.Selected
import MailSearch.Proofs.Search.LongWords
