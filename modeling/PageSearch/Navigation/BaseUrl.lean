import PageSearch.Navigation.Basic

/-!
# Navigation by printing

A printer writes the target of each navigation to a sink, one to a line. A url without `://` is
joined onto the base url if there is one. A line is written in two pieces, the target unless it is
empty, and the line end; the first piece that the sink refuses ends the line. Of all refusals the
first is kept, and the sink is given back only if there was none.
-/

namespace PageSearch

/-- A type of states that text can be written to, with errors of type `ε`. -/
class Sink (S : Type) (ε : outParam Type) where
  write : S → String → Except ε Unit × S

/-- Writes navigation targets, resolved against a base url, to a sink. -/
structure TargetPrinter (S ε : Type) where
  base : Option String
  sink : S
  failure : Option ε

namespace TargetPrinter

variable {S ε : Type}

def new (base : Option String) (sink : S) : TargetPrinter S ε :=
  ⟨base, sink, none⟩

/-- Whether a text has `://` in it. -/
def hasScheme : List Char → Bool
  | [] => false
  | c :: rest => "://".toList.isPrefixOf (c :: rest) || hasScheme rest

/-- A text without the slashes at its end. -/
def dropSlashesEnd (s : List Char) : List Char :=
  (s.reverse.dropWhile (· == '/')).reverse

/-- A url joined onto a base with one slash between them. -/
def join (base url : String) : String :=
  String.ofList (dropSlashesEnd base.toList ++ '/' :: url.toList.dropWhile (· == '/'))

/-- The target of a url. -/
def resolve (p : TargetPrinter S ε) (url : String) : String :=
  match p.base with
  | some base => if hasScheme url.toList then url else join base url
  | none => url

/-- Writes pieces of text up to the first that is refused. -/
def writeAll [Sink S ε] (sink : S) : List String → Except ε Unit × S
  | [] => (.ok (), sink)
  | piece :: rest =>
    match Sink.write sink piece with
    | (.ok (), sink) => writeAll sink rest
    | (.error e, sink) => (.error e, sink)

/-- The pieces of a line. -/
def linePieces (target : String) : List String :=
  if target = "" then ["\n"] else [target, "\n"]

/-- Writes the target of a url as a line. -/
def navigate [Sink S ε] (p : TargetPrinter S ε) (url : String) : TargetPrinter S ε :=
  match writeAll p.sink (linePieces (p.resolve url)) with
  | (.ok (), sink) => { p with sink }
  | (.error e, sink) => { p with sink, failure := p.failure.or (some e) }

instance [Sink S ε] : Navigator (TargetPrinter S ε) where
  navigate := navigate

/-- The sink, or the first refusal. -/
def finish (p : TargetPrinter S ε) : Except ε S :=
  match p.failure with
  | some e => .error e
  | none => .ok p.sink

end TargetPrinter

/-- A text that grows at its end and never refuses. -/
structure Page where
  text : String

instance : Sink Page Empty where
  write p piece := (.ok (), ⟨p.text ++ piece⟩)

end PageSearch
