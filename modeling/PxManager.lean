import PxManager.Core.Dict
import PxManager.Core.StreamReader
import PxManager.Core.Json
import PxManager.Core.Lockout
import PxManager.Bans.Store
import PxManager.Bans.Calls
import PxManager.Bans.Refinement
import PxManager.Bans.Persistent
import PxManager.Bans.StateFile
import PxManager.Bans.Crash
import PxManager.Export.Selected
import PxManager.Export.Valid
import PxManager.Export.ShadowrocketFields
import PxManager.Login.BruteForce
import PxManager.Login.Sessions
import PxManager.Health.Speed
import PxManager.Health.DnsCache
import PxManager.Health.ExitCountry
import PxManager.Health.Classification
import PxManager.Reputation.SingleFlight
import PxManager.Mtg.Handshake
import PxManager.Transport.Send
import PxManager.Transport.Receive
import PxManager.Transport.QuicReceive
import PxManager.Speed.OtherStreams
import PxManager.Admin.TailLines
import PxManager.Admin.Injection
import PxManager.Admin.Nesting
import PxManager.Admin.Shown
import PxManager.Speed.Progress
import PxManager.Mtg.Secret
import PxManager.Telegram.Rows
import PxManager.Telegram.Usable
import PxManager.Login.Accounted
import PxManager.Login.AuthLog
import PxManager.Reputation.KeysPrivate
import PxManager.Export.ListFields
import PxManager.Export.Endpoints
import PxManager.Telegram.SocksCheck
import PxManager.Health.IpEcho
import PxManager.Login.ClientHints
import PxManager.Login.GeneratePasswd
import PxManager.Core.JsonRoundTrip
import PxManager.Speed.Server
import PxManager.Speed.Outcome
import PxManager.Speed.Agreement
import PxManager.Mtg.Check
import PxManager.Health.SideBySide
import PxManager.Bans.Restarts
import PxManager.Login.Access
import PxManager.Speed.Masque
