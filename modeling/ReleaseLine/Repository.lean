import ReleaseLine.Url.Basic

namespace ReleaseLine

/-- Whose releases are managed. -/
structure Repository where
  owner : String
  name : String
deriving DecidableEq

def Repository.render (r : Repository) : String := r.owner ++ "/" ++ r.name

structure Token where
  secret : String
deriving DecidableEq

namespace Token

def bearer (token : Token) : String := "Bearer " ++ token.secret

def redacted (_ : Token) : String := "GitHubToken(****)"

end Token

/-- The identifier that the service gave to a created release. -/
structure ReleaseId where
  text : String
deriving DecidableEq

/-- A local file to attach to a release: its name and label there, and its type. -/
structure Artifact where
  path : String
  name : String
  label : String
  contentType : String
deriving DecidableEq

end ReleaseLine
