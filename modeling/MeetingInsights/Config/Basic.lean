import MeetingInsights.Number.Binary
import MeetingInsights.Pool.Settings

/-! # Configuration

The settings of the program, in four sections, with the values that hold unless something else is
said.
-/

namespace MeetingInsights

namespace Config

structure Database where
  url : String
  maxConnections : Nat
  minConnections : Nat
  connectTimeoutSecs : Nat
  idleTimeoutSecs : Nat
  maxLifetimeMins : Nat
deriving DecidableEq, Repr

structure Ai where
  isEnabled : Bool
  provider : String
  model : String
  temperature : Number.Binary
  apiKey : String
  baseUrl : String
  timeoutSecs : Nat
deriving DecidableEq, Repr

structure Queue where
  kind : String
  workerCount : Nat
  bufferSize : Nat
  pollIntervalMs : Nat
deriving DecidableEq, Repr

def Database.standard : Database where
  url := ""
  maxConnections := 25
  minConnections := 1
  connectTimeoutSecs := 30
  idleTimeoutSecs := 600
  maxLifetimeMins := 5

/-- The temperature that providers are asked with, 0.3 in four bytes. -/
def standardTemperature : Number.Binary := Number.single.ofDecimal ⟨false, 3, -1⟩

def Ai.standard : Ai where
  isEnabled := true
  provider := "openai"
  model := "gpt-4o-mini"
  temperature := standardTemperature
  apiKey := ""
  baseUrl := "https://api.openai.com/v1"
  timeoutSecs := 90

/-- The only kind of queue there is. -/
def queueKind : String := "inmemory"

def Queue.standard : Queue where
  kind := queueKind
  workerCount := Pool.Settings.standard.workerCount
  bufferSize := Pool.Settings.standard.bufferSize
  pollIntervalMs := Pool.Settings.standard.pollIntervalMs

def Queue.poolSettings (q : Queue) : Pool.Settings := ⟨q.workerCount, q.bufferSize, q.pollIntervalMs⟩

end Config

structure Config where
  environment : String
  database : Config.Database
  ai : Config.Ai
  queue : Config.Queue
deriving DecidableEq, Repr

/-- The configuration that holds unless something else is said. -/
def Config.standard : Config where
  environment := "development"
  database := .standard
  ai := .standard
  queue := .standard

instance : Inhabited Config := ⟨.standard⟩

def Config.standardPath : String := "./config.yaml"

end MeetingInsights
