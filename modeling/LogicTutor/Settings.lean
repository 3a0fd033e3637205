/-! Settings of the application for each environment that it can run in. -/
namespace LogicTutor

structure Settings where
  name : String
  testing : Option Bool
  debug : Option Bool
  /-- Database statements are logged. -/
  echo : Bool
  database : String
  deriving DecidableEq, Repr

namespace Settings

def development : Settings := ⟨"DevelopmentConfig", none, some true, true, "mysql+pymysql"⟩

def production : Settings := ⟨"ProductionConfig", none, some false, false, "mysql+pymysql"⟩

def trial : Settings := ⟨"TestingConfig", some true, none, false, "sqlite"⟩

/-- The settings of an environment; an unknown one, or none, counts as development. -/
def ofEnvironment : Option String → Settings
  | some "production" => production
  | some "testing" => trial
  | _ => development

/-- Credentials are signed by this algorithm. -/
def algorithm : String := "HS256"

def secret : String := "dev-secret-key-change-in-production"

/-- How long an access credential is valid, in seconds. -/
def accessSeconds : Nat := 24 * 3600

/-- How long a refresh credential is valid, in seconds. -/
def refreshSeconds : Nat := 30 * 86400

end Settings

end LogicTutor
