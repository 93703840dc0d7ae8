namespace Daybook

namespace Database

/-- What can be done with an open store. -/
inductive Access where
  /-- It can be changed. What a change overwrites is kept in a journal until the change is made. -/
  | journaled
  /-- It can be changed. A change goes into a log first. -/
  | logged
  /-- It could be changed, but no journal can be made. -/
  | unjournaled
  | readOnly
  deriving DecidableEq

/-- Why the file of a database cannot be worked with. -/
inductive Obstacle where
  | notDatabase
  | cannotOpen
  | cannotRead
  | cannotRemove
  /-- What has been written cannot be brought to where it lasts. -/
  | cannotFlush
  /-- It is being worked with elsewhere. -/
  | locked
  | cannotLock
  /-- The lock on its log cannot be agreed upon. -/
  | lockProtocol
  /-- It is open for reading only. -/
  | readOnly
  /-- It is open for reading only, and there is a journal to do away with. -/
  | unfinished
  deriving DecidableEq

/-- The messages of an obstacle, outermost first. -/
def Obstacle.messages : Obstacle → List String
  | .notDatabase =>
    ["file is not a database", "Error code 26: File opened that is not a database file"]
  | .cannotOpen =>
    ["unable to open database file", "Error code 14: Unable to open the database file"]
  | .cannotRead => ["disk I/O error", "Error code 266: Error reading from disk"]
  | .cannotRemove =>
    ["disk I/O error", "Error code 2570: I/O error within xDelete of a VFS object"]
  | .cannotFlush =>
    ["disk I/O error", "Error code 1034: Error flushing data to persistent storage (fsync)"]
  | .locked => ["database is locked", "Error code 5: The database file is locked"]
  | .cannotLock =>
    ["disk I/O error", "Error code 3850: I/O error in the advisory file locking logic"]
  | .lockProtocol => ["locking protocol", "Error code 15: Database lock protocol error"]
  | .readOnly =>
    ["attempt to write a readonly database",
      "Error code 8: Attempt to write a readonly database"]
  | .unfinished =>
    ["attempt to write a readonly database",
      "Error code 776: Database has hot journal that must be rolled back (requires write access)"]

end Database

end Daybook
