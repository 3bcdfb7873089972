import Ketabdaneh.Library.Text.Basic

namespace Api

open Text

def ROLES_READ : Str :=
  ofString "roles:read"

def PEOPLE_READ : Str :=
  ofString "people:read"

def PEOPLE_CREATE : Str :=
  ofString "people:create"

def EVENTS_READ : Str :=
  ofString "events:read"

def EVENTS_CREATE : Str :=
  ofString "events:create"

def ASSIGNMENTS_READ : Str :=
  ofString "assignments:read"

def ASSIGNMENTS_CREATE : Str :=
  ofString "assignments:create"

def ALL_PERMISSION_CODES : List Str :=
  [
    ROLES_READ, PEOPLE_READ, PEOPLE_CREATE, EVENTS_READ, EVENTS_CREATE, ASSIGNMENTS_READ,
    ASSIGNMENTS_CREATE
  ]

end Api
