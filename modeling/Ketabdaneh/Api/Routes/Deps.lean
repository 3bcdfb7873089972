import Ketabdaneh.Api.Routes.Auth
import Ketabdaneh.Api.Services.Authz

namespace Api

open Text

def GENERIC_403_DETAIL : Str :=
  ofString "Not authorized"

def forbidden : HTTPException where
  status := 403
  detail := GENERIC_403_DETAIL

/--
The dependency of a protected route: the handler runs when it returns. The security scheme, which
reads the `Authorization` header, is a parameter.
-/
def requirePermission (permission : Str) (jwt : PyJWT) (settings : AuthSettings)
    (httpBearer : Option Str → Option HTTPAuthorizationCredentials) (header : Option Str)
    (db : Accounts) : Except Raised User := do
  let currentUser ← getCurrentUser jwt settings (httpBearer header) db
  if userHasPermission db currentUser permission then
    return currentUser
  else
    throw (.http forbidden)

end Api
