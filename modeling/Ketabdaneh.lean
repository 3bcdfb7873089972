import Ketabdaneh.Web.Events.Lemmas.EventCreateForm
import Ketabdaneh.Web.Auth.Lemmas.Session
import Ketabdaneh.Web.Auth.Lemmas.Unauthorized
import Ketabdaneh.Library.Python.JsonRoundTrip
import Ketabdaneh.Api.Worker.Lemmas.Service
import Ketabdaneh.Api.Worker.Lemmas.Confidentiality
import Ketabdaneh.Api.Services.Lemmas.EventReads
import Ketabdaneh.Api.Routes.Lemmas.Deps
import Ketabdaneh.Web.Auth.Lemmas.ReturnTo
import Ketabdaneh.Api.Services.Lemmas.Provisioning
import Ketabdaneh.Api.Routes.Lemmas.Login
import Ketabdaneh.Api.Lemmas.Cardinality
import Ketabdaneh.Api.Core.Lemmas.ConfigErrors
import Ketabdaneh.Api.Services.Lemmas.CredentialCalls
import Ketabdaneh.Api.Services.Lemmas.RoleResolution
import Ketabdaneh.Api.Routes.Lemmas.Accounting
import Ketabdaneh.Api.Worker.Lemmas.RateLimit
import Ketabdaneh.Api.Worker.Lemmas.Queue
import Ketabdaneh.Api.Worker.Lemmas.Decoding
import Ketabdaneh.Api.Worker.Lemmas.Pool
import Ketabdaneh.Api.Worker.Lemmas.QueueErrors
import Ketabdaneh.Api.Notifications.Lemmas.Dispatcher
import Ketabdaneh.Web.Calendar.WeekCalendar
import Ketabdaneh.Web.Calendar.Lemmas.WeekCalendar
import Ketabdaneh.Web.Calendar.Lemmas.LanePacking
import Ketabdaneh.Web.Calendar.Lemmas.VisibleHours
import Ketabdaneh.Web.Calendar.Lemmas.DayOrder
import Ketabdaneh.Web.Auth.Lemmas.AuthGate
import Ketabdaneh.Web.Auth.Lemmas.LoginForm
import Ketabdaneh.Web.Auth.Lemmas.RoundTrip
import Ketabdaneh.Web.Events.Lemmas.EventAssignments
import Ketabdaneh.Library.Ecma.LocalDate
import Ketabdaneh.Web.Datetime.Lemmas.MonthGrid
import Ketabdaneh.Web.Datetime.Lemmas.Jalaali
import Ketabdaneh.Web.Datetime.DateTimePicker
import Ketabdaneh.Web.Datetime.Lemmas.TimeField
import Ketabdaneh.Web.Datetime.Lemmas.DateTimePicker
import Ketabdaneh.Web.Calendar.Lemmas.DateOnly
import Ketabdaneh.Web.Dashboard.Lemmas.DashboardData
import Ketabdaneh.Web.Dashboard.Lemmas.AssignmentTotal
import Ketabdaneh.Api.Alembic.Lemmas.Seeds
import Ketabdaneh.Api.Routes.Lemmas.Creations
import Ketabdaneh.Api.Routes.Lemmas.LaterReads
import Ketabdaneh.Api.Routes.Lemmas.Guarded
import Ketabdaneh.Api.Routes.Lemmas.Completion
import Ketabdaneh.Api.Alembic.AuthorizationSeeds
import Ketabdaneh.Api.Alembic.Lemmas.AuthorizationSeeds
import Ketabdaneh.Api.Alembic.Lemmas.AuthorizationMatrix
import Ketabdaneh.Api.Commands.Lemmas.Concealment
import Ketabdaneh.Web.People.Lemmas.PersonCreateForm
import Ketabdaneh.Api.Worker.Lemmas.Classification
