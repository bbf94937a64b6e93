import FrameCheck.Workload.Sample

/-! Scripts of a chosen length, made of functions that each stand for one kind of use. -/

namespace FrameCheck.Workload

inductive Template where
  | join
  | grouping
  | selection
  | call
  | broken
  | wide
deriving DecidableEq, Repr

def hint (columns : List (Text × Text)) : Text :=
  let fields : List Text := columns.map fun (name, type) => name ++ ": " ++ type
  "DF[\"\x7b" ++ Text.intercalate ", " fields ++ "\x7d\"]"

def reference (name : Text) : Text :=
  "pl.col(\"" ++ name ++ "\")"

def joinLines (index : Text) : List Text :=
  let left : List (Text × Text) := [("a" ++ index, "Utf8"), ("b" ++ index, "Float64")]
  let right : List (Text × Text) := [("c" ++ index, "Utf8"), ("d" ++ index, "Float64?")]
  let key : Text × Text := ("key", "Int64")
  ["def join_fn_" ++ index ++ "(",
    "    left: " ++ hint (key :: left) ++ ",",
    "    right: " ++ hint (key :: right) ++ ",",
    ") -> " ++ hint (key :: left ++ right) ++ ":",
    "    return left.join(right, on=\"key\", how=\"inner\")"]

def aggregationLine (column method label : Text) : Text :=
  "        " ++ reference column ++ "." ++ method ++ "().alias(\"" ++ label ++ "\"),"

def groupingLines (index : Text) : List Text :=
  ["def gb_fn_" ++ index ++ "(",
    "    df: " ++ hint [("grp", "Utf8"), ("val", "Float64"), ("n", "Int64")] ++ ",",
    ") -> " ++ hint [("grp", "Utf8"), ("total", "Float64"), ("avg", "Float64"), ("cnt", "UInt32"),
      ("nu", "UInt32"), ("vals", "List[Float64]"), ("first_n", "Int64"), ("last_n", "Int64"),
      ("mn", "Int64"), ("mx", "Int64")] ++ ":",
    "    return df.group_by(\"grp\").agg(",
    aggregationLine "val" "sum" "total",
    aggregationLine "val" "mean" "avg",
    aggregationLine "val" "count" "cnt",
    aggregationLine "val" "n_unique" "nu",
    aggregationLine "val" "list" "vals",
    aggregationLine "n" "first" "first_n",
    aggregationLine "n" "last" "last_n",
    aggregationLine "n" "min" "mn",
    aggregationLine "n" "max" "mx",
    "    )"]

def doubled (column : Text) : Text :=
  reference column ++ ".alias(\"" ++ column ++ "2\")"

def selectionLines (index : Text) : List Text :=
  let kept : List (Text × Text) := [("a", "Int64"), ("b", "Float64"), ("c", "Utf8"),
    ("d", "Int64"), ("e", "Float64"), ("f", "Utf8"), ("g", "Boolean")]
  let dropped : List (Text × Text) := [("h", "Int64"), ("i", "Float64"), ("j", "Utf8")]
  let added : List (Text × Text) := [("twice", "Int64")]
  let commas (write : Text → Text) (columns : List Text) : Text :=
    "        " ++ Text.intercalate ", " (columns.map write) ++ ","
  ["def sel_fn_" ++ index ++ "(",
    "    df: " ++ hint (kept ++ dropped) ++ ",",
    ") -> " ++ hint (kept ++ added) ++ ":",
    "    tmp = df.with_columns(",
    "        pl.lit(1).alias(\"li\"),",
    "        pl.lit(2.0).alias(\"lf\"),",
    "        pl.lit(\"x\").alias(\"ls\"),",
    "        pl.lit(True).alias(\"lb\"),",
    "        pl.lit(None).alias(\"ln\"),",
    "        (" ++ reference "a" ++ " * 2).alias(\"twice\"),",
    "        (" ++ reference "b" ++ " + 1).alias(\"bp\"),",
    "    )",
    "    tmp = tmp.with_columns(",
    commas doubled ["a", "b", "c"],
    commas doubled ["d", "e", "f"],
    "    )",
    "    tmp2: " ++ hint [("a", "Int64")] ++ " = tmp",
    "    tmp3: int = 5",
    "    return tmp.select(",
    commas reference ["a", "b", "c", "d"],
    commas reference ["e", "f", "g", "twice"],
    "    )"]

def personColumns : List (Text × Text) :=
  [("id", "Int64"), ("name", "Utf8")]

def helperLines (index : Text) : List Text :=
  ["def helper_" ++ index ++ "(df: " ++ hint personColumns ++ ") -> " ++ hint personColumns ++ ":",
    "    return df"]

def callLines (index : Text) : List Text :=
  let added : List (Text × Text) := [("extra", "Int64")]
  let callers : List Text :=
    ["def untyped_" ++ index ++ "(df):",
      "    return df.with_columns(pl.lit(1).alias(\"extra\"))",
      "",
      "def caller_" ++ index ++ "(d: " ++ hint personColumns ++ ") -> " ++
        hint (personColumns ++ added) ++ ":",
      "    x = helper_" ++ index ++ "(d)",
      "    y = untyped_" ++ index ++ "(x)",
      "    return y"]
  helperLines index ++ {} :: callers

def shortFunction (name : Text) (input output : List (Text × Text)) (statement : Text) :
    List Text :=
  ["def " ++ name ++ "(df: " ++ hint input ++ ") -> " ++ hint output ++ ":", "    " ++ statement]

def brokenLines (index : Text) : List Text :=
  let single : List (Text × Text) := [("a", "Int64")]
  let groups : List (List Text) :=
    [["def bad_join_" ++ index ++ "(",
        "    a: " ++ hint [("k", "Int64"), ("v", "Utf8")] ++ ",",
        "    b: " ++ hint [("k", "Utf8"), ("w", "Float64")] ++ ",",
        ") -> " ++ hint [("k", "Int64"), ("v", "Utf8"), ("w", "Float64")] ++ ":",
        "    return a.join(b, on=\"k\", how=\"inner\")"],
      shortFunction ("bad_sel_" ++ index) single [("a", "Int64"), ("b", "Utf8")]
        ("return df.select(" ++ reference "missing" ++ ")"),
      shortFunction ("bad_ret_" ++ index) single [("a", "Utf8"), ("b", "Int64")] "return df",
      shortFunction ("bad_arg_" ++ index) [("a", "Utf8")] personColumns
        ("return helper_" ++ index ++ "(df)"),
      helperLines index,
      shortFunction ("bad_parse_" ++ index) [("a", "Unknown")] [("a", "???")] "return df",
      shortFunction ("bad_gb_" ++ index) [("k", "Utf8"), ("s", "Utf8")]
        [("k", "Utf8"), ("t", "Float64")]
        ("return df.group_by(\"k\").agg(" ++ reference "s" ++ ".sum().alias(\"t\"))"),
      shortFunction ("no_infer_" ++ index) single single "return something_unknown()"]
  List.intercalate [""] groups

def wideCount : Nat := 40

def wideLines (index : Text) : List Text :=
  let columns := numbered "w" namedType wideCount
  let frame := hint (("k", "Int64") :: columns.map fun (name, type) => (name, type.text ++ "?"))
  let references := Text.intercalate ", " (columns.map fun column => reference column.1)
  ["def wide_fn_" ++ index ++ "(",
    "    df: " ++ frame ++ ",",
    "    other: " ++ frame ++ ",",
    ") -> " ++ frame ++ ":",
    "    j = df.join(other, on=\"k\", how=\"left\")",
    "    s = df.select(" ++ references ++ ")",
    "    return df.with_columns(" ++ references ++ ")"]

namespace Template

def lines : Template → Text → List Text
  | .join => joinLines
  | .grouping => groupingLines
  | .selection => selectionLines
  | .call => callLines
  | .broken => brokenLines
  | .wide => wideLines

def text (template : Template) (index : Nat) : Text :=
  let lines : List Text := (template.lines (toString index)).map fun line => line ++ "\n"
  "\n" ++ Text.join lines

end Template

inductive WorkloadError where
  | noTemplates
  | noResults
deriving DecidableEq, Repr

def WorkloadError.message : WorkloadError → String
  | .noTemplates => "integer modulo by zero"
  | .noResults => "list index out of range"

def scriptHeader : Text :=
  "import polars as pl\nfrom polypolarism import DF\n"

def scriptText (templates : List Template) (count : Nat) : Except WorkloadError Text :=
  if templates.isEmpty ∧ 0 < count then .error .noTemplates
  else
    .ok <| scriptHeader ++ Text.intercalate "\n" ((List.range count).map fun index =>
      (cycled templates .join index).text index)

end FrameCheck.Workload
