import DesoBackend.Go.Decimal
import DesoBackend.Go.NumDigits
import DesoBackend.Go.Float64
import DesoBackend.Go.Strconv
import DesoBackend.Exchange.FormatFloat
import DesoBackend.Exchange.Scale
import DesoBackend.Exchange.Render
import DesoBackend.Exchange.RoundTrip
import DesoBackend.Exchange.Order
import DesoBackend.Referral.Store
import DesoBackend.Referral.Handlers
import DesoBackend.Referral.Writes
import DesoBackend.Referral.Index
import DesoBackend.Referral.Csv
import DesoBackend.Referral.Upload
import DesoBackend.Referral.Reimport
import DesoBackend.Referral.Lookup
import DesoBackend.Exchange.Listing
import DesoBackend.Admin.GlobalParams
import DesoBackend.Tools.Checksum
