import LoxTokens.Text.Basic

/-! # Where the user's configuration is kept

The directory for configurations is named by one variable, or lies under the home directory, or
is named by a third variable; the first that is set counts, even if it is empty. -/

namespace LoxTokens.Config

/-- `dir` and `name` with one slash between them, or `name` alone where there is no `dir`. -/
def joinPath (dir name : Text) : Text :=
  if dir = [] then name
  else if dir.getLast? = some '/' then dir ++ name
  else dir ++ '/' :: name

/-- What the environment says about places, each variable if it is set. -/
structure Places where
  configHome : Option Text
  home : Option Text
  appData : Option Text
deriving DecidableEq, Repr

namespace Places

/-- The directory of this program's configuration. -/
def configDir? (p : Places) : Option Text :=
  let base := p.configHome.or <| (p.home.map (joinPath · ".config".toList)).or p.appData
  base.map (joinPath · "loxlex".toList)

/-- The configuration file. -/
def configFile? (p : Places) : Option Text :=
  p.configDir?.map (joinPath · "config.toml".toList)

end Places
end LoxTokens.Config
