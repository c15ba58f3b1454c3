import Archestra.Js.Object
import Archestra.Js.Code
import Archestra.Js.Number
import Archestra.Db.Heap
import Archestra.Db.Tables
import Archestra.Db.Prog
import Archestra.Db.Retry
import Archestra.Db.Transient
import Archestra.Models.AgentLabel
import Archestra.Models.AgentTeam
import Archestra.Teams.Serial
import Archestra.Teams.Access
import Archestra.Teams.Alone
import Archestra.Teams.Members
import Archestra.Db.Sched
import Archestra.Db.Junction
import Archestra.Labels.GetOrCreate
import Archestra.Labels.Prune
import Archestra.Labels.Deadlock
import Archestra.Labels.Query
import Archestra.Labels.Alone
import Archestra.Labels.FullReplace
import Archestra.Labels.Values
import Archestra.Routes.A2A
import Archestra.Routes.Minimax
import Archestra.Models.SsoProvider
import Archestra.Models.Organization
import Archestra.Routes.Organization
import Archestra.Routes.Appearance
import Archestra.Secrets.Crypto
import Archestra.Secrets.SecretModel
import Archestra.Secrets.Rotation
import Archestra.Secrets.Envelope
import Archestra.Secrets.Script
import Archestra.Models.Interaction
import Archestra.Models.Member
import Archestra.Auth.Permissions
import Archestra.Frontend.ReadmeDialog
import Archestra.Frontend.AuthView
import Archestra.Frontend.AppearancePage
import Archestra.Frontend.Registry
