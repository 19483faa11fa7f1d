import ComponentDecl.Walk

/-!
# Walks as folds

A walk has the same effect as handing the nodes of the tree to their handlers one after
the other, in pre-order.  What a walk computes and tells is therefore read off the list of
nodes: once for handlers that keep the first node they like, once for handlers that keep
the last.
-/

namespace ComponentDecl

/-!
# Names of kinds

Handlers are registered by the name of a kind, so that no two kinds may share a name.
-/

namespace Kind

/-- All kinds. -/
def all : List Kind :=
  [.program, .hashBangLine, .exportStatement, .namespaceExport, .exportClause,
   .exportSpecifier, .importWord, .importStatement, .importClause, .namespaceImport,
   .namedImports, .importSpecifier, .importAttribute, .expressionStatement,
   .variableDeclaration, .lexicalDeclaration, .variableDeclarator, .statementBlock,
   .elseClause, .ifStatement, .switchStatement, .forStatement, .forInStatement,
   .whileStatement, .doStatement, .tryStatement, .withStatement, .breakStatement,
   .continueStatement, .debuggerStatement, .returnStatement, .throwStatement,
   .emptyStatement, .labeledStatement, .switchBody, .switchCase, .switchDefault,
   .catchClause, .finallyClause, .parenthesizedExpression, .yieldExpression, .object,
   .objectPattern, .assignmentPattern, .objectAssignmentPattern, .array, .arrayPattern,
   .glimmerTemplate, .glimmerOpeningTag, .glimmerClosingTag, .jsxElement, .jsxText,
   .htmlCharacterReference, .jsxExpression, .jsxOpeningElement, .jsxNamespaceName,
   .jsxClosingElement, .jsxSelfClosingElement, .jsxAttribute, .classExpression,
   .classDeclaration, .classHeritage, .functionExpression, .functionDeclaration,
   .generatorFunction, .generatorFunctionDeclaration, .arrowFunction, .optionalChain,
   .callExpression, .newExpression, .awaitExpression, .memberExpression,
   .subscriptExpression, .assignmentExpression, .augmentedAssignmentExpression,
   .spreadElement, .ternaryExpression, .binaryExpression, .unaryExpression,
   .updateExpression, .sequenceExpression, .string, .stringFragment, .escapeSequence,
   .comment, .htmlComment, .templateString, .templateSubstitution, .regex, .regexPattern,
   .regexFlags, .number, .identifier, .privatePropertyIdentifier, .propertyIdentifier,
   .statementIdentifier, .shorthandPropertyIdentifier, .shorthandPropertyIdentifierPattern,
   .metaProperty, .thisWord, .superWord, .trueWord, .falseWord, .nullWord, .undefinedWord,
   .arguments, .decorator, .classBody, .fieldDefinition, .formalParameters,
   .classStaticBlock, .restPattern, .methodDefinition, .pair, .pairPattern,
   .computedPropertyName, .error]

theorem mem_all (k : Kind) : k ∈ all := by
  cases k <;> decide

/-- The kinds that the library registers handlers for. -/
def handled : List Kind :=
  [.exportStatement, .classDeclaration, .classExpression, .fieldDefinition, .pair]

theorem spelling_handled :
    ∀ j ∈ handled, ∀ k ∈ all, k.spelling = j.spelling → k = j := by
  decide +kernel

theorem spelling_eq_iff {j k : Kind} (hj : j ∈ handled) :
    k.spelling = j.spelling ↔ k = j := by
  constructor
  · intro h
    exact spelling_handled j hj k (mem_all k) h
  · intro h
    rw [h]

end Kind

variable {σ : Type}

/-!
# The fold
-/

mutual

theorem walkTree_eq_foldlM (hs : Handlers σ) (c : Cursor) (t : Tree) (s : σ) :
    walkTree hs c t s = (c.nodesOf t).foldlM (fun s d => hs.dispatch d s) s := by
  cases t with
  | gap text =>
      simp [walkTree, Cursor.nodesOf]
  | token f text =>
      simp [walkTree, Cursor.nodesOf]
  | leaf f k text =>
      simp [walkTree, Cursor.nodesOf]
  | branch f k cs =>
      simp only [walkTree, Cursor.nodesOf, List.foldlM_cons]
      congr 1
      funext s'
      exact walkRow_eq_foldlM hs c [] c.start cs s'
  | missing f name =>
      simp [walkTree, Cursor.nodesOf]

theorem walkRow_eq_foldlM (hs : Handlers σ) (parent : Cursor) (left : List Tree) (m : Mark)
    (ts : List Tree) (s : σ) :
    walkRow hs parent left m ts s =
      (parent.nodesOfRow left m ts).foldlM (fun s d => hs.dispatch d s) s := by
  cases ts with
  | nil =>
      simp [walkRow, Cursor.nodesOfRow]
  | cons t rest =>
      simp only [walkRow, Cursor.nodesOfRow, List.foldlM_append]
      rw [walkTree_eq_foldlM hs (.child parent left m t) t s]
      congr 1
      funext s'
      exact walkRow_eq_foldlM hs parent (t :: left) (m.after t.text) rest s'

end

theorem walk_eq_foldlM (hs : Handlers σ) (c : Cursor) (s : σ) :
    walk hs c s = c.nodes.foldlM (fun s d => hs.dispatch d s) s :=
  walkTree_eq_foldlM hs c c.tree s

/-!
# Warnings

Of the notices of a computation only the warnings matter to a user.
-/

namespace Logged

/-- The warnings given on the way to a value. -/
def warnings {α : Type} (x : Logged α) : List Notice :=
  Notice.atLevel .warn x.notices

@[simp] theorem warnings_pure {α : Type} (a : α) : (pure a : Logged α).warnings = [] := rfl

@[simp] theorem warnings_bind {α β : Type} (x : Logged α) (f : α → Logged β) :
    (x >>= f).warnings = x.warnings ++ (f x.value).warnings := by
  simp [warnings, Notice.atLevel]

@[simp] theorem value_map {α β : Type} (f : α → β) (x : Logged α) :
    (f <$> x).value = f x.value := rfl

@[simp] theorem warnings_map {α β : Type} (f : α → β) (x : Logged α) :
    (f <$> x).warnings = x.warnings := by
  rw [map_eq_pure_bind, warnings_bind, warnings_pure, List.append_nil]

theorem warnings_tell (n : Notice) :
    (tell n).warnings = if Level.warn.covers n.level then [n] else [] := by
  simp [warnings, Notice.atLevel, List.filter_cons]

end Logged

/-!
# Dispatch

A table of handlers is read from the latest registration on.
-/

namespace Handlers

@[simp] theorem dispatch_empty (c : Cursor) (s : σ) :
    (empty : Handlers σ).dispatch c s = pure s := by
  unfold dispatch
  cases c.kind? <;> rfl

theorem dispatch_on {k : Kind} (hk : k ∈ Kind.handled) (h : Handler σ) (hs : Handlers σ)
    (c : Cursor) (s : σ) :
    (hs.on k.spelling h).dispatch c s =
      if c.isA k then do
        Logged.tell (.handling k.spelling c.span.start)
        h c s
      else hs.dispatch c s := by
  unfold dispatch Cursor.isA
  cases hc : c.kind? with
  | none =>
      simp
  | some j =>
      by_cases hjk : j = k
      · subst hjk
        simp [handler?, on]
      · have hne : (k.spelling == j.spelling) = false := by
          rw [beq_eq_false_iff_ne]
          intro h
          exact hjk ((Kind.spelling_eq_iff hk).mp h.symm)
        simp [handler?, on, hne, hjk]

theorem value_dispatch_on {k : Kind} (hk : k ∈ Kind.handled) (h : Handler σ)
    (hs : Handlers σ) (c : Cursor) (s : σ) :
    ((hs.on k.spelling h).dispatch c s).value =
      if c.isA k then (h c s).value else (hs.dispatch c s).value := by
  rw [dispatch_on hk]
  split <;> rfl

theorem warnings_dispatch_on {k : Kind} (hk : k ∈ Kind.handled) (h : Handler σ)
    (hs : Handlers σ) (c : Cursor) (s : σ) :
    ((hs.on k.spelling h).dispatch c s).warnings =
      if c.isA k then (h c s).warnings else (hs.dispatch c s).warnings := by
  rw [dispatch_on hk]
  split
  · rw [Logged.warnings_bind]
    rfl
  · rfl

end Handlers

/-!
# Handlers that keep one node

The two policies of the handlers: the first node that fits stays and each later one is
warned of, or the last node that fits stays.
-/

section Keeping

variable {α : Type} {f : Option α → α → Logged (Option α)} {p : α → Bool}
  {w : α → α → Notice}

theorem foldlM_kept
    (hv : ∀ s x, (f s x).value = if p x then s.or (some x) else s)
    (hw : ∀ d x, (f (some d) x).warnings = if p x then [w x d] else [])
    (xs : List α) (d : α) :
    (xs.foldlM f (some d)).value = some d ∧
      (xs.foldlM f (some d)).warnings = (xs.filter p).map (w · d) := by
  induction xs with
  | nil =>
      simp
  | cons x rest ih =>
      have hx : (f (some d) x).value = some d := by
        rw [hv]
        split <;> rfl
      rw [List.foldlM_cons, Logged.value_bind, Logged.warnings_bind, hx, ih.1, ih.2, hw]
      constructor
      · rfl
      · by_cases hp : p x <;> simp [hp]

theorem foldlM_keepFirst
    (hv : ∀ s x, (f s x).value = if p x then s.or (some x) else s)
    (hw : ∀ d x, (f (some d) x).warnings = if p x then [w x d] else [])
    (hn : ∀ x, (f none x).warnings = []) (xs : List α) :
    (xs.foldlM f none).value = (xs.filter p).head? ∧
      (xs.foldlM f none).warnings =
        match xs.filter p with
        | [] => []
        | d :: rest => rest.map (w · d) := by
  induction xs with
  | nil =>
      simp
  | cons x rest ih =>
      rw [List.foldlM_cons, Logged.value_bind, Logged.warnings_bind, hn, hv]
      by_cases hp : p x
      · simpa [hp] using foldlM_kept hv hw rest x
      · simpa [hp] using ih

theorem foldlM_keepLast
    (hv : ∀ s x, (f s x).value = if p x then some x else s)
    (hw : ∀ s x, (f s x).warnings = []) (xs : List α) (s : Option α) :
    (xs.foldlM f s).value = (xs.filter p).getLast?.or s ∧
      (xs.foldlM f s).warnings = [] := by
  induction xs generalizing s with
  | nil =>
      simp
  | cons x rest ih =>
      rw [List.foldlM_cons, Logged.value_bind, Logged.warnings_bind, hw, hv, (ih _).1,
        (ih _).2]
      constructor
      · by_cases hp : p x
        · cases hr : (rest.filter p).getLast? <;> simp [hp, List.getLast?_cons, hr]
        · simp [hp]
      · rfl

end Keeping

/-!
# Walks that only look

A walk tells no warnings if none of its handlers does, and its value depends on the values
of its handlers alone.
-/

theorem foldlM_warnings_eq_nil {α σ : Type} {f : σ → α → Logged σ}
    (hw : ∀ s x, (f s x).warnings = []) (xs : List α) (s : σ) :
    (xs.foldlM f s).warnings = [] := by
  induction xs generalizing s with
  | nil =>
      rfl
  | cons x rest ih =>
      rw [List.foldlM_cons, Logged.warnings_bind, hw, ih]
      rfl

theorem foldlM_value {α σ : Type} {f : σ → α → Logged σ} {g : σ → α → σ}
    (hv : ∀ s x, (f s x).value = g s x) (xs : List α) (s : σ) :
    (xs.foldlM f s).value = xs.foldl g s := by
  induction xs generalizing s with
  | nil =>
      rfl
  | cons x rest ih =>
      rw [List.foldlM_cons, Logged.value_bind, hv, ih]
      rfl

end ComponentDecl
