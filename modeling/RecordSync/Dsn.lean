import RecordSync.Dsn.Settings

/-!
# Addresses of stores

The address of a store is a URL with settings in its query. Only its form is looked at here, not
where it leads.

Key definitions: `Dsn.check`, `Dsn.splitSettings`, `Dsn.checkSettings`.
-/
namespace RecordSync
namespace Dsn

/-- The first fault of an address, if there is any. -/
def check (address : String) : Except Fault Unit := do
  let p ← Parts.read (cleaned address.toList)
  p.check

/-- The address in front of its settings, and the settings as they are written. -/
def splitSettings (address : String) : String × List Char :=
  let (front, query) := splitQuery (cleaned address.toList)
  (String.ofList front, query)

/-- The first fault of settings, as they are written, if there is any. -/
def checkSettings (query : List Char) : Except Fault Unit := (settings query).forM checkSetting

end Dsn
end RecordSync
