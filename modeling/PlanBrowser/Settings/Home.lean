import PlanBrowser.Files.Path

/-!
# The user's folder

The settings of a user are kept below the user's folder.  Where that is, the environment says: by one of two
variables, or by two parts that are put together.

* `Environment` — what the environment says;
* `Environment.home?` — the user's folder;
* `Environment.configPath?` — where the settings are when nobody says otherwise;
* `Environment.expand` — a path that may begin at the user's folder.
-/

namespace PlanBrowser

/-- The variables that tell where the user's folder is. -/
structure Environment where
  home : Option String
  userProfile : Option String
  homeDrive : Option String
  homePath : Option String
  deriving Repr, DecidableEq, Inhabited

namespace Environment

/-- **The user's folder**: the first of the variables that is there, or a drive and a path on it. -/
def home? (e : Environment) : Option String :=
  e.home <|> e.userProfile <|> do Files.Path.join (← e.homeDrive) (← e.homePath)

/-- **Where the settings are** when nobody says otherwise. -/
def configPath? (e : Environment) : Option String :=
  e.home?.map fun h => Files.Path.join (Files.Path.join h ".tripview") "config.yml"

/-- The rest of a path that begins at the user's folder. -/
def belowHome? (path : String) : Option String :=
  match path.toList with
  | '~' :: '/' :: rest | '~' :: '\\' :: rest => some (String.ofList rest)
  | _ => none

/-- **A path, with the user's folder in place of a tilde** at its front.  Without a user's folder the tilde
stays. -/
def expand (e : Environment) (path : String) : String :=
  match belowHome? path, e.home? with
  | some rest, some h => Files.Path.join h rest
  | _, _ => path

end Environment

end PlanBrowser
