import Ketabdaneh.Api.Routes.Middleware
import Ketabdaneh.Library.Asgi.ServerError

namespace Api

open Asgi

variable {Effect : Type}

/--
The application as it is served. Within the request logging there are the cross-origin rules, the
handlers of HTTP and validation errors and the router.
-/
def app (circumstances : Circumstances) (router : Application Effect)
    : Application (Effect ⊕ Report) :=
  ServerErrorMiddleware.call ⟨RequestLoggingMiddleware.call circumstances ⟨router⟩⟩

end Api
