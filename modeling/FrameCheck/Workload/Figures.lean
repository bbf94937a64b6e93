import FrameCheck.Command.Run
import FrameCheck.Typing.Subtype
import FrameCheck.Workload.Template

/-!
Workloads: inputs of a chosen size for each part of the library, and the figures that sum up
what it says of them.
-/

namespace FrameCheck.Workload

open Typing Analysis Report

inductive Figure where
  | nothing
  | truth (value : Bool)
  | number (value : Int)
  | text (value : Text)
  | row (figures : List Figure)

namespace Figure

def count (value : Nat) : Figure :=
  .number value

def texts (values : List Text) : Figure :=
  .row (values.map .text)

end Figure

def failures (results : List (Except ε α)) : Nat :=
  results.countP fun
    | .ok _ => false
    | .error _ => true

def successes (results : List (Except ε α)) : List α :=
  results.filterMap Except.toOption

def outcome (result : Except ε α) : Except Unit Unit :=
  match result with
  | .ok _ => .ok ()
  | .error _ => .error ()

/-! Schema texts. -/

def columnCount (schema : Text) : Nat :=
  match Schema.parseSchema schema with
  | .ok frame => frame.columns.size
  | .error _ => 0

def readType (text : Text) : Text :=
  match Schema.parseType text with
  | .ok type => type.text
  | .error _ => "err"

def malformedTypes : List Text :=
  ["Unknown", "List[Int64", "Struct\x7ba: Int64", "Struct\x7ba Int64\x7d", "Int64??", ""]

def schemaFigures (size : Nat) : List Figure :=
  let small := schemaOf [("a", .int64), ("b", .nullable .utf8), ("c", .list .float64)]
  let columns := [schemaText {} size, schemaText { nullable := true } size,
    schemaText { nullable := true, nested := true } size, schemaText {} 0, small]
  let types := namedTypes ++
    [.list (.nullable .int64), .struct (.ofList [("a", .int64)]), .struct .nil]
  columns.map (fun schema => .count (columnCount schema)) ++
    (types.map ColumnType.text ++ malformedTypes).map fun text => .text (readType text)

/-! Types. -/

def typeFigures (size : Nat) : List Figure :=
  let fields := numbered "f" (fun index => .list (.nullable (cycled simpleTypes .int64 index))) size
  let struct := ColumnType.struct (.ofList fields)
  let reversed := ColumnType.struct (.ofList fields.reverse)
  let inList := ColumnType.list (.nullable struct)
  let frame : Frame := { frameOf [("a", .int64), ("b", .utf8)] with rest := some "r" }
  let permuted : Frame := { frameOf [("b", .utf8), ("a", .int64)] with rest := some "r" }
  [.count struct.text.length, .count inList.text.length, .count reversed.text.length,
    .truth (struct.same reversed),
    .truth (inList.same (.list (.nullable reversed))),
    .truth (struct.same inList),
    .truth (ColumnType.nullable struct).isNullable,
    .texts (simpleTypes.map ColumnType.text),
    .count (ColumnType.tally (simpleTypes ++ simpleTypes)).length,
    .count simpleTypes.length,
    .truth (frame.same permuted),
    .truth (frame.hasColumn "a"),
    match frame.column? "z" with
    | some type => .text type.text
    | none => .nothing,
    match frame.rest with
    | some name => .text name
    | none => .nothing]

/-! Types of expressions. -/

def relatedTypes : List (ColumnType × ColumnType) :=
  [(.int64, .int32), (.int32, .float32), (.float32, .float64), (.nullable .int64, .int32),
    (.float64, .nullable .int64)]

def expressionFigures (size : Nat) : List Figure :=
  let pairs := (List.range size).map (cycled relatedTypes (.int64, .int64))
  let columns := numbered "c" namedType (max 4 (size / 10))
  let frame := frameOf columns
  let literals : List LiteralKind := [.none, .bool, .int, .float, .text]
  let optional := ColumnType.nullable .utf8
  [.count (successes (pairs.map fun pair => promote pair.1 pair.2)).length,
    .count (successes (pairs.map fun pair => promote pair.2 pair.1)).length,
    .count (successes (pairs.map fun pair => unify pair.1 pair.2)).length,
    .count (pairs.map fun pair => Typing.cast pair.1 pair.2).length,
    .count (successes (pairs.map fun pair => choice .boolean pair.1 pair.2)).length,
    .count (successes (columns.map fun column => columnType (.text column.1) frame)).length,
    .texts ((successes (literals.map literalType)).map ColumnType.text),
    .texts (([promote .null .int64, promote .int64 .null, promote .null .null,
      unify .null .utf8, unify .utf8 .null, unify .null .null, unify .utf8 .utf8,
      unify optional .utf8].flatMap fun result => result.toOption.toList).map ColumnType.text),
    .count (failures [outcome (columnType "z" frame), outcome (literalType (.other "list")),
      outcome (promote .utf8 .int64), outcome (unify .utf8 .int64),
      outcome (choice .utf8 .int64 .int64)])]

/-! Joins. -/

def joinKinds : List JoinKind :=
  [.inner, .left, .right, .full]

def joinFigures (size : Nat) : Except WorkloadError (List Figure) :=
  let side (name : Text) := frameOf (("key", .int64) :: numbered name namedType 12)
  let left := side "l"
  let right := side "r"
  let results := successes <| (List.range size).map fun index =>
    join left right { on := some "key", kind := cycled joinKinds .inner index }
  let other := frameOf [("key", .utf8)]
  match results with
  | [] => .error .noResults
  | _ =>
    .ok [.count (results.foldl (fun total frame => total + frame.columns.size) 0),
      .count (failures [join left right {}, join left right { on := some "l0" },
        join left right { on := some "r0" }, join left other { on := some "key" }])]

/-! Groupings. -/

def groupingFigures (size : Nat) : List Figure :=
  let keys : List (Text × ColumnType) := [("k0", .utf8), ("k1", .utf8), ("k2", .scalar .date)]
  let others : List (Text × ColumnType) := [("x", .nullable .int64), ("s", .utf8)]
  let frame := frameOf (keys ++ others)
  let names := keys.map fun key => Literal.text key.1
  let item (column : Text) (aggregation : Aggregation) (label : Text) : AggregationColumn :=
    { column := column, aggregation := aggregation, label := some (.text label) }
  let items := (List.range size).map fun index =>
    item "x" (cycled Aggregation.all .count index) ("a" ++ toString index)
  [.count ((aggregate frame names items).toOption.elim 0 fun frame => frame.columns.size),
    .truth (isNumeric .int64),
    .truth (isNumeric .utf8),
    .texts ((successes (Aggregation.all.map fun aggregation =>
      aggregation.resultType (.nullable .int64))).map ColumnType.text),
    .count (failures [aggregate frame ["z"] [], aggregate frame names [item "z" .count "a"],
      aggregate frame names [item "s" .sum "a"],
      aggregate frame names [item "x" (.unknown "median") "a"]])]

/-! Scripts. -/

def analyzedTemplates : List Template :=
  [.wide, .wide, .wide, .grouping]

def checkedTemplates : List Template :=
  [.wide, .join, .grouping, .selection, .call, .broken]

def analyzed (templates : List Template) (size : Nat) : List Summary :=
  match scriptText templates size with
  | .error _ => []
  | .ok script => (analyzeScript script).toOption.getD []

def analysisFigures (size : Nat) : List Figure :=
  (analyzed analyzedTemplates size).map fun summary =>
    .row [.text summary.name, .truth summary.hasProblems, .count summary.inputs.size,
      .truth summary.declared.isSome, .truth summary.inferred.isSome]

def verdictFigures (size : Nat) : List Figure :=
  ((analyzed checkedTemplates size).map verdict).flatMap fun verdict =>
    .row [.text verdict.function, .truth verdict.passed, .count verdict.findings.length,
      .text verdict.description] ::
    verdict.findings.map fun finding => .text finding.message

/-! The command. -/

def commandFigures (size : Nat) : List Figure :=
  let content := ((scriptText checkedTemplates size).toOption.getD "").shown.toUTF8.toList
  let tree : Command.FileTree := {}
  let tree := tree.write (.ofText "dir/script.py") (.file content)
  let exitCode (arguments : List Text) : Figure :=
    match Command.run tree.find? arguments with
    | .ok outcome => .count outcome.exitCode
    | .error _ => .nothing
  let missing := Command.Path.ofText "missing"
  let unlessOk (code : Int) (result : Except Command.CheckError (List Verdict)) : Figure :=
    .number (if result.toOption.isSome then 0 else code)
  [exitCode ["dir/script.py"],
    exitCode ["--no-color", "dir/script.py"],
    exitCode ["--format", "json", "dir/script.py"],
    exitCode ["dir"],
    exitCode [],
    exitCode ["missing"],
    unlessOk (-1) (Command.checkFile missing (tree.find? missing)),
    unlessOk (-2) (Command.checkDirectory missing (tree.find? missing))]

/-! Reports. -/

/-- A verdict for a report: every second function fails in every way. -/
def reportedVerdict (index : Nat) : Verdict :=
  let name := "fn" ++ toString index
  if index % 2 = 0 then { function := name, passed := true }
  else
    let column := Literal.text ("col" ++ toString index)
    let type := ColumnType.struct (.ofList (numbered "f" (fun _ => .int64) 8))
    { function := name
      passed := false
      findings :=
        [.missingColumn column type, .extraColumn column type, .typeDifference column type type,
          .inferenceFailure "Could not infer return type"] }

def reportFigures (size : Nat) : List Figure :=
  let verdicts := (List.range size).map reportedVerdict
  let first := verdicts.take 4
  let lines : Table Text Int := Table.ofList <| (List.range 4).map fun index =>
    ("fn" ++ toString index, Int.ofNat index + 1)
  let diagnostic : Diagnostic :=
    { file := "file.py", line := 1, column := 0, message := "message", severity := .warning,
      endLine := some 1, endColumn := some 2 }
  let length (report : Except Fault Text) : Figure :=
    .count (report.toOption.elim 0 Text.length)
  [length (listingText .coloured verdicts),
    length (listingText .coloured (verdicts.filter Verdict.passed)),
    length (listingText .coloured []),
    length (documentText first "file.py" .empty),
    length (documentText first "file.py" lines),
    length (documentText [] "file.py" .empty),
    .count diagnostic.members.length]

/-! Frames that serve for others. -/

def subtypeFigures (size : Nat) : List Figure :=
  let columns := numbered "c" namedType size
  let plain := frameOf columns
  let nullable := frameOf (columns.map fun (name, type) => (name, .nullable type))
  let added : List (Text × ColumnType) := [("extra", .int64)]
  let extended := frameOf (columns ++ added)
  let other := frameOf (columns.map fun (name, type) => (name, .list type))
  let mixed := frameOf <| (columns.zipIdx).map fun ((name, type), index) =>
    (name, if index % 4 = 3 then .list type else type)
  let judge (declared inferred : Frame) : Verdict :=
    verdict { name := "fn", line := 1, declared := some declared, inferred := some inferred }
  let good := judge nullable plain
  let bad := judge other extended
  let exact := judge plain plain
  let partly := judge plain mixed
  [.truth (frameServes plain nullable), .truth (frameServes nullable plain),
    .truth (frameServes (frameOf []) plain), .truth (frameServes extended plain),
    .count good.findings.length, .truth bad.passed, .count bad.findings.length,
    .truth exact.passed, .truth partly.passed, .count partly.findings.length]

end FrameCheck.Workload

namespace FrameCheck

inductive Workload where
  | schemas
  | types
  | expressions
  | joins
  | groupings
  | analyses
  | verdicts
  | command
  | reports
  | subtypes
deriving DecidableEq, Repr

namespace Workload

def usualSize : Workload → Nat
  | .schemas => 80
  | .types => 200
  | .expressions => 600
  | .joins => 200
  | .groupings => 600
  | .analyses => 16
  | .verdicts => 16
  | .command => 8
  | .reports => 200
  | .subtypes => 300

def figures (workload : Workload) (size : Nat) : Except WorkloadError (List Figure) :=
  match workload with
  | .schemas => .ok (schemaFigures size)
  | .types => .ok (typeFigures size)
  | .expressions => .ok (expressionFigures size)
  | .joins => joinFigures size
  | .groupings => .ok (groupingFigures size)
  | .analyses => .ok (analysisFigures size)
  | .verdicts => .ok (verdictFigures size)
  | .command => .ok (commandFigures size)
  | .reports => .ok (reportFigures size)
  | .subtypes => .ok (subtypeFigures size)

end Workload

end FrameCheck
