import Qemuctl.Go.Json

/-!
# Command-line arguments, as the composer builds them

The composer returns a `[]string`, but it builds most of those strings in one of two ways:
as `strings.Join(parts, ",")` over a list of option items that it appended one by one, or as
`json.Marshal` of a map. `Arg` keeps that structure: an `opts` argument carries the very
`parts` list the source joins, a `json` argument the map it marshals, and a `word` is any
other string (a flag, a number, a path passed alone, an extra argument). `Arg.render` is the
string the source produces, so every builder's `[]string` is the `render` of its `Arg`s.

Keeping the items is what lets the option-syntax results talk about "the items the composer
appended" as a value of the model, rather than as a reading of the source.
-/

set_option autoImplicit false

namespace Qemuctl

/-- One argument of the hypervisor's command line. -/
inductive Arg where
  /-- A string passed as it is. -/
  | word (s : String)
  /-- A comma-joined QEMU option payload, with the items the source joined. -/
  | opts (items : List String)
  /-- A marshalled `-blockdev` description. -/
  | json (v : Json)

namespace Arg

/-- The string the source appends for this argument. -/
def render : Arg → String
  | .word s => s
  | .opts items => Strings.join items ","
  | .json v => v.marshal

@[simp] theorem render_word (s : String) : render (.word s) = s := rfl

@[simp] theorem render_opts (items : List String) :
    render (.opts items) = Strings.join items "," := rfl

/-- Is this argument the flag `f`? -/
def isFlag (f : String) : Arg → Bool
  | .word s => s == f
  | _ => false

end Arg

/-- The argument vector of a list of arguments. -/
def argv (args : List Arg) : List String := args.map Arg.render

@[simp] theorem argv_append (xs ys : List Arg) : argv (xs ++ ys) = argv xs ++ argv ys :=
  List.map_append _ _ _

@[simp] theorem argv_cons (x : Arg) (xs : List Arg) : argv (x :: xs) = x.render :: argv xs := rfl

@[simp] theorem argv_nil : argv [] = [] := rfl

end Qemuctl
