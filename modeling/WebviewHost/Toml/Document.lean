import WebviewHost.Toml.Scalar

/-!
# TOML documents

Values, and the lines of a document: key-value pairs and table headers. A header closes the table
before it and opens another one.
-/

set_option autoImplicit false

namespace WebviewHost.Toml

/-! ## Values -/

mutual

/-- A value. The first argument bounds the work, the second is how many more arrays and braces may
be opened. -/
def takeValue? : Nat → Nat → List Char → Option (Item × List Char)
  | 0, _, _ => none
  | fuel + 1, allowance, text =>
      match text with
      | '[' :: rest =>
          if allowance = 0 then none
          else (takeItems? fuel (allowance - 1) (skipLines fuel rest)).map fun (items, rest) =>
            (.array items, rest)
      | '\x7b' :: rest =>
          if allowance = 0 then none
          else
            match skipBlanks rest with
            | '\x7d' :: rest => some (.table .braces [], rest)
            | rest => (takePairs? fuel (allowance - 1) [] rest).map fun (entries, rest) =>
                (.table .braces entries, rest)
      | text => takeScalar? text

/-- The items of an array up to its closing bracket. A comma may follow the last one. -/
def takeItems? : Nat → Nat → List Char → Option (List Item × List Char)
  | 0, _, _ => none
  | fuel + 1, allowance, text =>
      match text with
      | ']' :: rest => some ([], rest)
      | text =>
          match takeValue? fuel allowance text with
          | none => none
          | some (item, rest) =>
              match skipLines fuel rest with
              | ']' :: rest => some ([item], rest)
              | ',' :: rest =>
                  (takeItems? fuel allowance (skipLines fuel rest)).map fun (items, rest) =>
                    (item :: items, rest)
              | _ => none

/-- The pairs between braces up to the closing one, of which there is at least one, added to the
entries before them. No comma may follow the last one. -/
def takePairs? : Nat → Nat → Entries → List Char → Option (Entries × List Char)
  | 0, _, _, _ => none
  | fuel + 1, allowance, entries, text =>
      match takeKey? text with
      | some (path, key, '=' :: rest) =>
          match takeValue? fuel allowance (skipBlanks rest) with
          | none => none
          | some (item, rest) =>
              match entries.insert path key item with
              | none => none
              | some entries =>
                  match skipBlanks rest with
                  | '\x7d' :: rest => some (entries, rest)
                  | ',' :: rest => takePairs? fuel allowance entries rest
                  | _ => none
      | _ => none

end

/-! ## Lines -/

/-- A document that is being read: the tables that are complete, and the open one with the path of
its header and whether that had double brackets. -/
structure Draft where
  root : Entries
  path : List String
  repeated : Bool
  current : Entries

namespace Draft

def start : Draft := ⟨[], [], false, []⟩

def addPair (draft : Draft) (path : List String) (key : String) (item : Item) : Option Draft :=
  (draft.current.insert path key item).map fun current => { draft with current }

def close (draft : Draft) : Option Entries :=
  match draft.path.getLast? with
  | none => some draft.current
  | some name =>
      let place (_ : Form) (parent : Entries) : Option Entries :=
        match draft.repeated, parent.get? name with
        | true, none => some (parent.put name (.tables [draft.current]))
        | true, some (.tables elements) =>
            some (parent.put name (.tables (elements ++ [draft.current])))
        | false, none => some (parent.put name (.table .header draft.current))
        | _, _ => none
      Entries.modifyAt false place draft.path.dropLast .header draft.root

/-- Open a table by a header in single brackets. It must be new, or known only from longer headers,
whose tables it then holds. -/
def openTable (root : Entries) (path : List String) (name : String) : Option Draft :=
  let parent? := Entries.modifyAt false
    (fun _ parent =>
      match parent.get? name with
      | none => some parent
      | some (.table .passed _) => some parent
      | some _ => none) path .header root
  match parent? with
  | none => none
  | some root =>
      let held := find root path
      let inner :=
        match held.get? name with
        | some (.table .passed inner) => inner
        | _ => []
      (Entries.modifyAt false (fun _ parent => some (parent.erase name)) path .header root).map
        fun root => ⟨root, path ++ [name], false, inner⟩
where
  find : Entries → List String → Entries
    | entries, [] => entries
    | entries, key :: path =>
        match entries.get? key with
        | some (.table _ inner) => find inner path
        | some (.tables elements) => find (elements.getLast?.getD []) path
        | _ => []

/-- Open a table by a header in double brackets. The name must be new or already stand for such
tables. -/
def openRepeated (root : Entries) (path : List String) (name : String) : Option Draft :=
  let check (_ : Form) (parent : Entries) : Option Entries :=
    match parent.get? name with
    | none => some (parent.put name (.tables []))
    | some (.tables _) => some parent
    | some _ => none
  (Entries.modifyAt false check path .header root).map fun root =>
    ⟨root, path ++ [name], true, []⟩

def takeHeader? (draft : Draft) (text : List Char) : Option (Draft × List Char) :=
  match text with
  | '[' :: rest =>
      match takeKey? rest with
      | some (path, name, ']' :: ']' :: rest) => do
          let rest ← takeLineEnd? rest
          let root ← draft.close
          return (← openRepeated root path name, rest)
      | _ => none
  | text =>
      match takeKey? text with
      | some (path, name, ']' :: rest) => do
          let rest ← takeLineEnd? rest
          let root ← draft.close
          return (← openTable root path name, rest)
      | _ => none

def takePair? (draft : Draft) (text : List Char) : Option (Draft × List Char) :=
  match takeKey? text with
  | some (path, key, '=' :: rest) => do
      let (item, rest) ← takeValue? (2 * rest.length + 2) nestingLimit (skipBlanks rest)
      let rest ← takeLineEnd? rest
      return (← draft.addPair path key item, rest)
  | _ => none

/-- Read the lines of a document. The first argument bounds their number. -/
def takeLines? : Nat → Draft → List Char → Option Draft
  | 0, _, _ => none
  | fuel + 1, draft, text =>
      match skipBlanks text with
      | [] => some draft
      | '#' :: rest =>
          match takeLineEnd? ('#' :: rest) with
          | some rest => draft.takeLines? fuel rest
          | none => none
      | '[' :: rest =>
          match draft.takeHeader? rest with
          | some (draft, rest) => draft.takeLines? fuel rest
          | none => none
      | rest =>
          match takeNewline? rest with
          | some rest => draft.takeLines? fuel rest
          | none =>
              match draft.takePair? rest with
              | some (draft, rest) => draft.takeLines? fuel rest
              | none => none

end Draft

/-- Read a document. A byte order mark at its front is skipped. -/
def read? (text : String) : Option Entries :=
  let chars :=
    match text.toList with
    | '\ufeff' :: rest => rest
    | chars => chars
  (Draft.start.takeLines? (chars.length + 2) chars).bind Draft.close

end WebviewHost.Toml
