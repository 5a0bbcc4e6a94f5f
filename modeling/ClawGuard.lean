import ClawGuard.Js
import ClawGuard.Config
import ClawGuard.Config.Load
import ClawGuard.Url.Encoding
import ClawGuard.Url.Host
import ClawGuard.Url.Parser
import ClawGuard.Url.Reparse
import ClawGuard.Url.Plain
import ClawGuard.Security.Guard
import ClawGuard.Security.PrivateIP
import ClawGuard.Approval.Policy
import ClawGuard.Approval.Grants
import ClawGuard.Approval.Liveness
import ClawGuard.Telegram
import ClawGuard.Telegram.Pairing
import ClawGuard.Admin.Allowlist
import ClawGuard.Admin.Services
import ClawGuard.Admin.Restart
import ClawGuard.Proxy.Handler
import ClawGuard.Proxy.Routing
import ClawGuard.Proxy.Confinement
import ClawGuard.Proxy.Approved
import ClawGuard.Audit
import ClawGuard.Admin.Router
import ClawGuard.Admin.Live
import ClawGuard.Config.Defaults
import ClawGuard.Proxy.Payload
