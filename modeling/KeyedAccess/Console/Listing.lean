import KeyedAccess.Descriptor
import KeyedAccess.Text.Quoted
import KeyedAccess.Text.Width

/-!
# Listings of descriptors

Descriptors are shown to people as tables, one for each type, and to programs as one indented value
in ASCII.
-/

namespace KeyedAccess.Console

/-- A value of a listing. -/
inductive Datum where
  /-- No value. -/
  | nothing
  /-- A truth value. -/
  | truth (b : Bool)
  /-- A text. -/
  | text (s : String)
  /-- Values in order. -/
  | items (values : List Datum)
  /-- Named values in order. -/
  | fields (values : List (String × Datum))

/-- Lines between brackets, each behind a comma but the first, with the closing bracket back on the
margin. -/
def bracketed (opening closing margin : String) (entries : List String) : String :=
  if entries.isEmpty then opening ++ closing
  else
    let inner := margin ++ "  "
    opening ++ "\n" ++ inner ++ (",\n" ++ inner).intercalate entries ++ "\n" ++ margin ++ closing

mutual

/-- A value as text whose further lines begin at a margin. -/
def Datum.write (margin : String) : Datum → String
  | .nothing => "null"
  | .truth true => "true"
  | .truth false => "false"
  | .text s => Text.asciiQuoted s
  | .items values => bracketed "[" "]" margin (writeItems (margin ++ "  ") values)
  | .fields values => bracketed "\x7b" "\x7d" margin (writeFields (margin ++ "  ") values)

/-- The texts of values. -/
def writeItems (margin : String) : List Datum → List String
  | [] => []
  | value :: rest => value.write margin :: writeItems margin rest

/-- The texts of named values. -/
def writeFields (margin : String) : List (String × Datum) → List String
  | [] => []
  | (name, value) :: rest =>
    (Text.asciiQuoted name ++ ": " ++ value.write margin) :: writeFields margin rest

end

/-- A property as a value. -/
def propertyDatum (p : Property) : Datum :=
  .fields [("name", .text p.name), ("type", .text p.type), ("readable", .truth p.readable),
    ("writable", .truth p.writable)]

/-- A text that may be missing as a value. -/
def optionalDatum : Option String → Datum
  | some s => .text s
  | none => .nothing

/-- A descriptor as a value. -/
def descriptorDatum (t : Descriptor) : Datum :=
  .fields [("identifier", .text t.identifier), ("declaration_header", .text t.header),
    ("namespace", optionalDatum t.scope), ("members", .items (t.properties.map propertyDatum))]

/-- The listing of descriptors for programs. -/
def listing (types : List Descriptor) : String :=
  (Datum.items (types.map descriptorDatum)).write "" ++ "\n"

/-- How a column stands in its cells. -/
inductive Alignment where
  /-- At the left edge. -/
  | left
  /-- In the middle. -/
  | centre
deriving DecidableEq, Repr

/-- The columns of a table: their headings and how they stand. -/
def columns : List (String × Alignment) :=
  [("Member", .left), ("Type", .left), ("Get", .centre), ("Set", .centre)]

/-- A truth value in a table. -/
def yesNo (b : Bool) : String := if b then "yes" else "no"

/-- The row of a property. -/
def propertyRow (p : Property) : List String :=
  [p.name, p.type, yesNo p.readable, yesNo p.writable]

/-- The widths of columns: that of the widest cell in each. -/
def columnWidths (rows : List (List String)) : List Nat :=
  rows.foldl (fun widths row => List.zipWith max widths (row.map Text.width))
    (columns.map fun _ => 0)

/-- A cell in a column of a width. -/
def cell (alignment : Alignment) (width : Nat) (text : String) : String :=
  match alignment with
  | .left => Text.padRight width text
  | .centre => Text.padBoth width text

/-- A row of a table; two blanks stand behind every cell. -/
def rowText (widths : List Nat) (row : List String) : String :=
  String.join (List.zipWith
    (fun (spec : (String × Alignment) × Nat) text => cell spec.1.2 spec.2 text ++ "  ")
    (columns.zip widths) row)

/-- The table of a type, or a remark where it has no properties. -/
def tableLines (t : Descriptor) : List String :=
  if t.properties.isEmpty then ["No accessible members"]
  else
    let rows := columns.map (·.1) :: t.properties.map propertyRow
    rows.map (rowText (columnWidths rows))

/-- The tables of descriptors for people. -/
def tables (types : List Descriptor) : String :=
  if types.isEmpty then "No candidate types\n"
  else
    String.join (types.map fun t =>
      String.join ((t.qualifiedName :: (tableLines t ++ [""])).map (· ++ "\n")))

end KeyedAccess.Console
