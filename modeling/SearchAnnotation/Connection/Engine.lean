import SearchAnnotation.Text.Pieces

/-!
# Engines and their drivers

The name of an engine may be followed by a plus and the name of a driver. One engine is at hand,
with two drivers: one for one task at a time, which serves where no driver is named, and one for
many tasks at once. The drivers of the other engines are known by name only.
-/

namespace SearchAnnotation.Connection

/-- What the name of an engine and a driver leads to. -/
inductive Driver where
  /-- A driver for many tasks at once. -/
  | concurrent
  /-- A driver for one task at a time. -/
  | blocking
  /-- A driver that is known and not at hand. -/
  | absent
  /-- Something of the engine that is no driver. -/
  | other
  /-- Nothing. -/
  | unknown
  /-- Nothing, for the name has too many parts. -/
  | overlong
deriving DecidableEq, Repr

/-- Engines that are known by name, with the names of their drivers. -/
def absentDrivers : List (String × List String) :=
  let rows := ["base", "aiomysql", "asyncmy", "cymysql", "mariadbconnector", "mysqlconnector",
    "mysqldb", "pymysql", "pyodbc"]
  [("sqlite", ["pysqlcipher"]),
    ("postgresql", ["base", "asyncpg", "pg8000", "psycopg", "psycopg2", "psycopg2cffi",
      "psycopg_async"]),
    ("mysql", rows), ("mariadb", rows),
    ("mssql", ["base", "aioodbc", "pymssql", "pyodbc"]),
    ("oracle", ["base", "cx_oracle", "oracledb", "oracledb_async"])]

/-- What the engine at hand has besides drivers. -/
def engineContents : List String := [
  "BLOB", "BOOLEAN", "CHAR", "DATE", "DATETIME", "DECIMAL", "FLOAT", "INTEGER", "JSON", "NUMERIC",
  "REAL", "SMALLINT", "TEXT", "TIME", "TIMESTAMP", "VARCHAR", "Insert", "insert", "dml", "json",
  "dialect"]

/-- The driver of an engine. -/
def driverOf (engine driver : String) : Driver :=
  if engine == "sqlite" && driver == "aiosqlite" then .concurrent
  else if engine == "sqlite" && (driver == "pysqlite" || driver == "base") then .blocking
  else if ((absentDrivers.lookup engine).getD []).contains driver then .absent
  else if engine == "sqlite" && engineContents.contains driver then .other
  else .unknown

/-- The driver of a name as it stands in an address. -/
def Driver.ofName (name : List Char) : Driver :=
  match Text.pieces (· == '+') name with
  | [engine] => driverOf (String.ofList engine) "base"
  | [engine, driver] => driverOf (String.ofList engine) (String.ofList driver)
  | _ => .overlong

end SearchAnnotation.Connection
