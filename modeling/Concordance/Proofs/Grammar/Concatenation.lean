import Concordance.Proofs.Query.Compile

/-!
A concatenation is a gap that leaves out no token.  A grammar that says so in any of its nodes is
well-formed if the other one is, finds the same in every document, and compiles to the same query.
-/

namespace Concordance

namespace Match

theorem isContiguous_eq_isWithin (found : Match) :
    found.isContiguous = found.isWithin (some 1) := by
  have next : (fun first second : Nat => second == first + 1) =
      fun first second => first < second && (some 1).all (second - first ≤ ·) := by
    funext first second
    rw [Bool.eq_iff_iff]
    simp
    omega
  rw [isContiguous, isWithin, next]

theorem concatenation_eq_gap : concatenation = gap (some 1) false := by
  funext lists
  simp only [concatenation, gap, finish, isContiguous_eq_isWithin, Bool.false_eq_true, if_false]

end Match

namespace Grammar

mutual

/-- The second grammar has gaps of one token in place of some concatenations of the first one. -/
inductive Respelled : Grammar → Grammar → Prop
  | terminal (t : Terminal) : Respelled (terminal t) (terminal t)
  | composite {name : String} {operation : Operation} {children others : List Grammar}
      {slop : Option Nat} {matchFirst : Bool} (below : RespelledAll children others) :
      Respelled (composite name operation children slop matchFirst)
        (composite name operation others slop matchFirst)
  | concatenation {name : String} {children others : List Grammar} {slop : Option Nat}
      {matchFirst : Bool} (below : RespelledAll children others) :
      Respelled (composite name .concat children slop matchFirst)
        (composite name .gap others (some 1) false)

inductive RespelledAll : List Grammar → List Grammar → Prop
  | nil : RespelledAll [] []
  | cons {child other : Grammar} {rest others : List Grammar} (first : Respelled child other)
      (later : RespelledAll rest others) : RespelledAll (child :: rest) (other :: others)

end

variable {grammar other : Grammar} {children others : List Grammar}

/-! Well-formed nodes. -/

theorem RespelledAll.length_eq (below : RespelledAll children others) :
    others.length = children.length := by
  induction children generalizing others with
  | nil =>
      cases below
      rfl
  | cons child rest ih =>
      cases below with
      | cons first later => rw [List.length_cons, List.length_cons, ih later]

theorem fault?_gap_one {count : Nat} {slop : Option Nat} {matchFirst : Bool}
    (faultless : Operation.concat.fault? count slop matchFirst = none) :
    Operation.gap.fault? count (some 1) false = none := by
  rw [Operation.fault?_eq_none_iff] at *
  exact ⟨faultless.hasChildren, nofun, fun _ => rfl, nofun, nofun⟩

mutual

theorem Respelled.wellFormed : ∀ {grammar other : Grammar}, Respelled grammar other →
    grammar.WellFormed → other.WellFormed
  | _, _, .terminal t, valid => valid
  | _, _, .composite below, valid => by
      rw [WellFormed, below.length_eq]
      exact ⟨valid.1, below.wellFormed valid.2⟩
  | _, _, .concatenation below, valid => by
      rw [WellFormed, below.length_eq]
      exact ⟨fault?_gap_one valid.1, below.wellFormed valid.2⟩

theorem RespelledAll.wellFormed : ∀ {children others : List Grammar}, RespelledAll children others →
    AllWellFormed children → AllWellFormed others
  | _, _, .nil, valid => valid
  | _, _, .cons first later, valid => ⟨first.wellFormed valid.1, later.wellFormed valid.2⟩

end

/-! Matches. -/

variable (document : Document)

mutual

theorem Respelled.find_eq : ∀ {grammar other : Grammar}, Respelled grammar other →
    other.matcher.find document = grammar.matcher.find document
  | _, _, .terminal t => rfl
  | .composite _ operation _ _ _, _, .composite below => by
      have all := below.findAll_eq
      rw [matcher, matcher]
      cases operation with
      | not =>
          cases below with
          | nil => rfl
          | cons first later =>
              simp only [combined, matchers, List.head?_cons, Option.map_some, Option.getD_some,
                Matcher.find, first.find_eq]
      | concat => simp only [combined, Matcher.find, all]
      | gap => simp only [combined, Matcher.find, all]
      | union => simp only [combined, Matcher.find, all]
      | intersect => simp only [combined, Matcher.find, all]
      | layerMatch => simp only [combined, Matcher.find, all]
  | _, _, .concatenation below => by
      simp only [matcher, combined, Matcher.find, below.findAll_eq, Match.concatenation_eq_gap]

theorem RespelledAll.findAll_eq : ∀ {children others : List Grammar},
    RespelledAll children others →
      Matcher.findAll document (matchers others) = Matcher.findAll document (matchers children)
  | _, _, .nil => rfl
  | _, _, .cons first later => by
      simp only [matchers, Matcher.findAll, first.find_eq, later.findAll_eq]

end

/-! Bounds and connectives. -/

theorem RespelledAll.isLone_eq (below : RespelledAll children others) (operation : Operation) :
    Bounds.isLone operation others = Bounds.isLone operation children := by
  cases below with
  | nil => rfl
  | cons first later =>
      cases later with
      | nil => cases first <;> rfl
      | cons second later => cases first <;> rfl

theorem RespelledAll.ofOperation_eq (below : RespelledAll children others) (operation : Operation)
    (bounds : List Bounds) :
    Bounds.ofOperation operation others bounds = Bounds.ofOperation operation children bounds := by
  cases operation <;> simp only [Bounds.ofOperation, below.isLone_eq]

theorem ofOperation_gap (children : List Grammar) (bounds : List Bounds) :
    Bounds.ofOperation .gap children bounds = Bounds.ofOperation .concat children bounds := by
  cases children with
  | nil => rfl
  | cons first rest => cases rest <;> cases first <;> rfl

mutual

theorem Respelled.bounds_eq : ∀ {grammar other : Grammar}, Respelled grammar other →
    other.bounds = grammar.bounds
  | _, _, .terminal t => rfl
  | _, _, .composite below => by
      funext table
      simp only [bounds, below.boundsOfAll_eq, below.ofOperation_eq]
  | _, _, .concatenation below => by
      funext table
      simp only [bounds, below.boundsOfAll_eq, below.ofOperation_eq, ofOperation_gap]

theorem RespelledAll.boundsOfAll_eq : ∀ {children others : List Grammar},
    RespelledAll children others → boundsOfAll others = boundsOfAll children
  | _, _, .nil => rfl
  | _, _, .cons first later => by
      funext table
      simp only [boundsOfAll, first.bounds_eq, later.boundsOfAll_eq]

end

mutual

theorem Respelled.direct_eq : ∀ {grammar other : Grammar}, Respelled grammar other →
    other.direct = grammar.direct
  | _, _, .terminal t => rfl
  | _, _, .composite below => by
      funext table
      simp only [direct, below.directAll_eq]
  | _, _, .concatenation below => by
      funext table
      simp only [direct, below.directAll_eq, connective]

theorem RespelledAll.directAll_eq : ∀ {children others : List Grammar},
    RespelledAll children others → directAll others = directAll children
  | _, _, .nil => rfl
  | _, _, .cons first later => by
      funext table
      simp only [directAll, first.direct_eq, later.directAll_eq]

end

end Grammar

/-! Queries. -/

namespace CompilerOptions

variable {grammar other : Grammar} (options : CompilerOptions)

theorem inclusiveQuery_eq (respelled : Grammar.Respelled grammar other) :
    options.inclusiveQuery other = options.inclusiveQuery grammar := by
  simp only [inclusiveQuery, inclusiveExpr, respelled.bounds_eq, respelled.direct_eq]

theorem exclusiveClauses_eq (respelled : Grammar.Respelled grammar other) :
    options.exclusiveClauses other = options.exclusiveClauses grammar := by
  simp only [exclusiveClauses, respelled.bounds_eq, respelled.direct_eq]

end CompilerOptions

/-- A grammar with gaps of one token in place of concatenations is well-formed with the other one.
Both find the same matches, or miss the same layer, in every document, and beside every partner both
compile to the same query, whether they are wanted or unwanted. -/
theorem Grammar.concatenation_is_gap {grammar other : Grammar} (valid : grammar.validate = .ok ())
    (respelled : Respelled grammar other) :
    other.validate = .ok () ∧
      (∃ matcher otherMatcher, Matcher.ofGrammar grammar = .ok matcher ∧
        Matcher.ofGrammar other = .ok otherMatcher ∧
        ∀ document, otherMatcher.find document = matcher.find document) ∧
      ∀ (options : CompilerOptions) (partner : Option Grammar),
        (options.compile (some other) partner).outcome =
            (options.compile (some grammar) partner).outcome ∧
          (options.compile partner (some other)).outcome =
            (options.compile partner (some grammar)).outcome ∧
          ((∀ node ∈ partner, node.validate = .ok ()) →
            (∃ query, (options.compile (some grammar) partner).outcome = .ok query) ∧
            ∃ query, (options.compile partner (some grammar)).outcome = .ok query) := by
  have wellFormed := validate_eq_ok_iff.mp valid
  have otherWellFormed := respelled.wellFormed wellFormed
  have otherValid := validate_eq_ok_iff.mpr otherWellFormed
  refine ⟨otherValid, ⟨_, _, ofGrammar_eq_ok wellFormed, ofGrammar_eq_ok otherWellFormed,
    fun document => respelled.find_eq document⟩, ?_⟩
  intro options partner
  have sameCheck : (some other).forM validate = (some grammar).forM validate :=
    otherValid.trans valid.symm
  refine ⟨?_, ?_, ?_⟩
  · simp only [CompilerOptions.compile_outcome_eq_validate, sameCheck, CompilerOptions.query,
      Option.elim_some, options.inclusiveQuery_eq respelled]
  · simp only [CompilerOptions.compile_outcome_eq_validate, sameCheck, CompilerOptions.query,
      Option.elim_some, options.exclusiveClauses_eq respelled]
  · intro partnerValid
    have here : ∀ node ∈ some grammar, node.WellFormed := by simpa using wellFormed
    have beside : ∀ node ∈ partner, node.WellFormed := fun node member =>
      validate_eq_ok_iff.mp (partnerValid node member)
    exact ⟨⟨_, CompilerOptions.compile_outcome here beside⟩,
      _, CompilerOptions.compile_outcome beside here⟩

/-! A concatenation in a concatenation, and one below a negation that stays as it is. -/

namespace Grammar

def noBlueFox : Grammar :=
  combine .not [combine .concat [exact "" "text" ["blue"], exact "" "text" ["fox"]]]

def redFoxes : Grammar :=
  combine .concat [exact "" "text" ["red"], noBlueFox, combine .concat [regex "" "text" "fox"]]

def redFoxesInOne : Grammar :=
  gap (some 1) [exact "" "text" ["red"], noBlueFox, gap (some 1) [regex "" "text" "fox"]]

theorem concatenation_is_gap_redFoxes :
    redFoxesInOne.validate = .ok () ∧
      (∃ matcher otherMatcher, Matcher.ofGrammar redFoxes = .ok matcher ∧
        Matcher.ofGrammar redFoxesInOne = .ok otherMatcher ∧
        ∀ document, otherMatcher.find document = matcher.find document) ∧
      ∀ (options : CompilerOptions) (partner : Option Grammar),
        (options.compile (some redFoxesInOne) partner).outcome =
            (options.compile (some redFoxes) partner).outcome ∧
          (options.compile partner (some redFoxesInOne)).outcome =
            (options.compile partner (some redFoxes)).outcome ∧
          ((∀ node ∈ partner, node.validate = .ok ()) →
            (∃ query, (options.compile (some redFoxes) partner).outcome = .ok query) ∧
            ∃ query, (options.compile partner (some redFoxes)).outcome = .ok query) := by
  have valid : redFoxes.validate = .ok () := rfl
  have kept : Respelled noBlueFox noBlueFox :=
    .composite (.cons (.composite (.cons (.terminal _) (.cons (.terminal _) .nil))) .nil)
  exact concatenation_is_gap valid (.concatenation (.cons (.terminal _) (.cons kept
    (.cons (.concatenation (.cons (.terminal _) .nil)) .nil))))

end Grammar

end Concordance
