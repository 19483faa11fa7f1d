import ComponentDecl.Parse.Repair

/-!
# Trees of rejected sources

A source that the grammar rejects still has a tree: it holds the whole text and the
mistake in it.
-/

namespace ComponentDecl
namespace Parse

def Mistake.tree (source : Text) : Mistake → Tree
  | .stretch start stop =>
      let stop := max start stop
      .branch none .program
        [.gap (source.take start), .leaf none .error ((source.drop start).take (stop - start)),
          .gap (source.drop stop)]
  | .missing offset name =>
      .branch none .program [.gap (source.take offset), .missing none name,
        .gap (source.drop offset)]

def mistake (source : Text) : Mistake :=
  (mistakeWithin 4 source).getD (.stretch 0 source.length)

def flawed (source : Text) : Tree :=
  (mistake source).tree source

/-- The tree of any source. -/
def tree (source : Text) : Tree :=
  match readProgram source with
  | .ok t => t
  | .error _ => flawed source

end Parse
end ComponentDecl
