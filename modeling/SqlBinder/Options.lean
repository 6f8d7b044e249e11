import SqlBinder.DbType

/-!
The settings of conversions, binds, executions and connections. Each is passed to the operation that
needs it.

Settings are plain data with defaults and are never checked by themselves: a pattern for dates, for
instance, may be any text, and whether it can be followed is found when the first date is decoded.
-/
namespace SqlBinder

/-- How values are decoded, and how timestamps are encoded. The pattern for dates is text until the
first date is decoded by it. -/
structure ConvertOptions where
  fetchAsText : List DbType := []
  /-- Types fetched as bytes in place of a large object. -/
  fetchAsBytes : List DbType := []
  /-- Digits of the fraction that an encoded timestamp keeps. -/
  timestampScale : Nat := 6
  /-- Pattern of dates fetched as text. -/
  datePattern : String := "%Y-%m-%d %H:%M:%S"
  deriving DecidableEq, Repr

namespace ConvertOptions

/-- Values of the type are fetched as text. -/
def asText (o : ConvertOptions) (t : DbType) : Bool := o.fetchAsText.contains t

/-- Content of the type is fetched as bytes. -/
def asBytes (o : ConvertOptions) (t : DbType) : Bool := o.fetchAsBytes.contains t

/-- More types to be fetched as text. -/
def addText (o : ConvertOptions) (types : List DbType) : ConvertOptions :=
  { o with fetchAsText := o.fetchAsText ++ types }

/-- More types to be fetched as bytes. -/
def addBytes (o : ConvertOptions) (types : List DbType) : ConvertOptions :=
  { o with fetchAsBytes := o.fetchAsBytes ++ types }

/-- Another scale, nine at most. -/
def withScale (o : ConvertOptions) (scale : Nat) : ConvertOptions :=
  { o with timestampScale := min scale 9 }

end ConvertOptions

/-- How binds are resolved: what is settled for an output that leaves its size or its type open, and
from which length on a block is sent large objects. -/
structure BindOptions where
  /-- Buffer size of an output bind that declares none. -/
  defaultMaxSize : Nat := 200
  /-- Type of an output bind that declares none. -/
  defaultType : DbType := .varchar
  /-- An output bind has to declare its type. -/
  requireType : Bool := false
  /-- Longer strings and raws go to blocks as large objects. -/
  blockStringLimit : Nat := 32767
  deriving DecidableEq, Repr

/-- How a statement is executed. None of these changes what it means, apart from where its rows go
and how many there may be. -/
structure ExecuteOptions where
  fetchSize : Nat := 100
  /-- Rows that come with the answer to an execution. -/
  prefetch : Nat := 2
  /-- Hand out a result set in place of rows. -/
  asResultSet : Bool := false
  /-- The most rows handed out; 0 is no limit. -/
  maxRows : Nat := 0
  autoCommit : Bool := false
  /-- The longest one round trip may take. -/
  callTimeout : Option Span := none
  convert : ConvertOptions := {}
  bind : BindOptions := {}
  deriving DecidableEq, Repr

/-- Other rows per fetch; at least one. -/
def ExecuteOptions.withFetchSize (o : ExecuteOptions) (size : Nat) : ExecuteOptions :=
  { o with fetchSize := max size 1 }

/-- The settings of a connection: how many scans it keeps, and how statements are executed when
nothing else is said. -/
structure ConnectionOptions where
  /-- Texts whose scans are kept; 0 keeps none. -/
  statementCacheSize : Nat := 30
  /-- Settings where an operation is given none. -/
  defaults : ExecuteOptions := {}
  deriving DecidableEq, Repr

end SqlBinder
