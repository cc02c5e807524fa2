
namespace ReleaseLine.Log

inductive Level where
  | debug
  | info
  | warn
deriving DecidableEq

inductive Origin where
  | config
  | release
  | client
  | audit
deriving DecidableEq

structure Record where
  level : Level
  origin : Origin
  message : String
  fields : List (String × String)
deriving DecidableEq

class Logging (m : Type → Type) where
  log : Record → m Unit

end ReleaseLine.Log
