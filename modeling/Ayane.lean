import Ayane.Lib.Backtrack
import Ayane.Cli.Vouch
import Ayane.Storage.Exclusive
import Ayane.Service
import Ayane.World.Run
import Ayane.Service.Phases
import Ayane.Service.Claims
import Ayane.Service.Authorization
import Ayane.Service.OneTime
import Ayane.Storage.Backends
import Ayane.Storage.Inventory
import Ayane.Authorizer.ReplayId
import Ayane.Ca.Contents
import Ayane.Ca.WellFormed
import Ayane.Hook.Answers
import Ayane.Service.InFlight
import Ayane.Service.LateRevocation
import Ayane.Service.Lifetime
import Ayane.Service.ProofReplay
import Ayane.Service.Renewability
import Ayane.Ca.Rejections
import Ayane.Service.Agreement
import Ayane.Service.Preservation
import Ayane.Service.Rejections
import Ayane.Lib.Memo
import Ayane.Service.RootsSignature
import Ayane.Service.Scopes
import Ayane.Http
import Ayane.Cli.Endpoint
import Ayane.Cli.SignedContent
import Ayane.Service.Interference
import Ayane.Service.ReplayKeys
import Ayane.Storage.Calls
import Ayane.Cli.FreshRoots
import Ayane.Authorizer.RefetchLimit
import Ayane.Cli.RenewNotice
import Ayane.Hook.Names
import Ayane.Service.SanPolicy
import Ayane.Authorizer.Documented
import Ayane.Service.ClockRange
import Ayane.Authorizer.SecureUrl
import Ayane.Service.RevokedSerial
import Ayane.Cli.RootsHeaders
import Ayane.Authorizer.Routing
import Ayane.Cli.Csrgen
import Ayane.Cli.RenewWindow
import Ayane.Tls.Renewer
import Ayane.Cli.WriteAtomic
import Ayane.Lib.Rely
import Ayane.World.Leaves
import Ayane.Http.Api
import Ayane.Cli.Client
import Ayane.Storage.Durable
import Ayane.Service.Acknowledged
import Ayane.Service.Accounted
import Ayane.Http.Served
import Ayane.Http.Booted
import Ayane.Bootstrap
import Ayane.Cli.Proof
