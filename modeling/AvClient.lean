import AvClient.Json
import AvClient.NumericLiteral
import AvClient.HexString
import AvClient.ContestMap
import AvClient.Async
import AvClient.Coercion
import AvClient.SubmitVotes
import AvClient.ReceiptAcceptance
import AvClient.ReceiptBinding
import AvClient.ElectionConfig
import AvClient.Session
import AvClient.Lifecycle
import AvClient.Requests
import AvClient.Legacy
import AvClient.AuthorizationMode
