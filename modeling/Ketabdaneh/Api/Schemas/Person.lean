import Ketabdaneh.Api.Services.Persons

namespace Api

open Text

structure PersonRead where
  id : UUID
  name : Str
  phone : Option Str
  active : Bool
  roles : List Role

/-- Python compares strings by their code points. -/
def deterministicRoleOrder (roles : List Role) : List Role :=
  roles.mergeSort fun a b => !decide (b.code < a.code)

def PersonRead.ofPerson (person : Person) (roles : List Role) : PersonRead where
  id := person.id
  name := person.name
  phone := person.phone
  active := person.active
  roles := deterministicRoleOrder roles

end Api
