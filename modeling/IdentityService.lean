import IdentityService.Http.Application
import IdentityService.Main
import IdentityService.Provider.Account
import IdentityService.Service.Assembly
import IdentityService.Service.Catalogue
import IdentityService.Service.Startup
import IdentityService.Fault.Construction
import IdentityService.Proofs.Bytes.Base64Url
import IdentityService.Proofs.Bytes.Unicode
import IdentityService.Proofs.Json.Scalars
import IdentityService.Proofs.Json.RoundTrip
import IdentityService.Proofs.Calendar.Timestamp
import IdentityService.Proofs.Session.Segments
import IdentityService.Proofs.Session.Verification
import IdentityService.Proofs.Session.Authenticity
import IdentityService.Proofs.Directory.IndexInvariant
import IdentityService.Proofs.Session.RoundTrip
import IdentityService.Proofs.Directory.Refinement
import IdentityService.Proofs.Session.Collapse
import IdentityService.Proofs.Directory.Replies
import IdentityService.Proofs.Directory.SingleRow
import IdentityService.Proofs.Http.Plan
import IdentityService.Proofs.Http.AllOrNothing
import IdentityService.Proofs.Http.Isolation
import IdentityService.Proofs.Directory.History
import IdentityService.Proofs.Http.Traffic
import IdentityService.Proofs.Session.RoleAccess
import IdentityService.Proofs.Provider.Lifecycle
import IdentityService.Proofs.Http.Refusal
import IdentityService.Proofs.Http.Occasion
import IdentityService.Proofs.Http.SessionExchange
import IdentityService.Proofs.Directory.EmailLookup
import IdentityService.Proofs.Session.UsableSettings
import IdentityService.Proofs.Provider.ProjectAddress
import IdentityService.Proofs.Http.ErrorTreatment
import IdentityService.Proofs.Session.Expiry
import IdentityService.Proofs.Provider.Verification
import IdentityService.Proofs.Validation.Requests
import IdentityService.Proofs.Text.AsciiCase
import IdentityService.Proofs.Directory.Spelling
import IdentityService.Proofs.Calendar.DayCount
import IdentityService.Proofs.Validation.Anniversary
import IdentityService.Proofs.Directory.PhoneNumbers
import IdentityService.Proofs.Directory.BrokenTexts
import IdentityService.Proofs.Directory.Registration
import IdentityService.Proofs.Directory.Independence
import IdentityService.Proofs.Validation.BirthDateTexts
import IdentityService.Proofs.Text.CaseFold
import IdentityService.Proofs.Enumeration
import IdentityService.Proofs.Validation.DigitTexts
import IdentityService.Proofs.Http.VerifiedEmail
import IdentityService.Proofs.Validation.PasswordStrength
import IdentityService.Proofs.Validation.AddressGrammar
import IdentityService.Proofs.Session.SignatureText
