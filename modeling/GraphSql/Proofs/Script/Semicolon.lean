import GraphSql.Proofs.Grammar.Level
import GraphSql.Proofs.Script.Parentheses

/-!
# A statement ends before the first semicolon

No rule reads a semicolon, and no rule tells it from the end of input. So a statement that is read from
some tokens is read from those before the first semicolon alone, wherever they stand, and what is read
as a whole statement has at most one semicolon, the last token.
-/

namespace GraphSql

open Token (Kind)

/-- Two cursors with the same tokens up to a semicolon or the end, and with the same nesting. -/
structure Cursor.Alike (tail other : List Kind) (left right : Cursor) : Prop where
  kinds : ∃ front, left.rest.map Token.kind = front ++ tail ∧ right.rest.map Token.kind = front ++ other
  stops : ∀ kind ∈ tail.head?, kind = .symbol .semicolon
  stopsOther : ∀ kind ∈ other.head?, kind = .symbol .semicolon
  ends : left.last.kind = .finish
  endsOther : right.last.kind = .finish
  depth : right.depth = left.depth
  limit : right.limit = left.limit
  held : right.held = left.held

/-- A cursor is at the first of its tokens or at the end. -/
theorem Cursor.current_kind (cursor : Cursor) :
    cursor.current.kind = ((cursor.rest.map Token.kind).head?).getD cursor.last.kind := by
  cases unread : cursor.rest with
  | nil => rw [current, peek_nil cursor unread 0]; rfl
  | cons token rest => rw [current_cons cursor token rest unread]; rfl

namespace Cursor.Alike

variable {tail other : List Kind} {left right : Cursor}

/-- Where no token is left before the semicolon, a cursor stops. -/
theorem stops_of_kinds {cursor : Cursor} {tail : List Kind}
    (kinds : cursor.rest.map Token.kind = tail) (stops : ∀ kind ∈ tail.head?, kind = .symbol .semicolon)
    (ends : cursor.last.kind = .finish) : cursor.Stops .semicolon := by
  rw [Cursor.Stops, Cursor.current_kind, kinds]
  cases tail with
  | nil => exact .inl ends
  | cons kind rest => exact .inr (stops kind rfl)

theorem outside_of_stops {cursor : Cursor} (stops : cursor.Stops .semicolon) :
    cursor.current.kind.isInside = false := by
  rcases stops with atEnd | atSemicolon
  · rw [atEnd]
    rfl
  · rw [atSemicolon]
    rfl

theorem current (alike : Alike tail other left right) :
    right.current.kind = left.current.kind ∨
      left.current.kind.isInside = false ∧ left.Stops .semicolon ∧ right.Stops .semicolon := by
  obtain ⟨front, kinds, kindsOther⟩ := alike.kinds
  cases front with
  | cons kind front =>
      left
      rw [Cursor.current_kind, Cursor.current_kind, kinds, kindsOther]
      rfl
  | nil =>
      right
      have stops := stops_of_kinds kinds alike.stops alike.ends
      exact ⟨outside_of_stops stops, stops, stops_of_kinds kindsOther alike.stopsOther alike.endsOther⟩

theorem advance (alike : Alike tail other left right) (inside : left.current.kind.isInside) :
    Alike tail other left.advance right.advance := by
  obtain ⟨front, kinds, kindsOther⟩ := alike.kinds
  cases front with
  | nil =>
      have outside := outside_of_stops (stops_of_kinds kinds alike.stops alike.ends)
      rw [inside] at outside
      cases outside
  | cons kind front =>
      refine { alike with kinds := ⟨front, ?_, ?_⟩ }
      · simp [Cursor.advance, kinds]
      · simp [Cursor.advance, kindsOther]

theorem pairing (tail other : List Kind) : Pairing .semicolon (Alike tail other) where
  ends alike := ⟨alike.ends, alike.endsOther⟩
  current := current
  advance := advance
  room alike levels room := by
    rw [alike.depth, alike.limit]
    exact room
  deeper alike levels := { alike with depth := congrArg (· + levels) alike.depth }
  shallower alike levels := { alike with depth := congrArg (· - levels) alike.depth }
  held alike := alike.held
  hold alike levels := { alike with held := rfl }

/-- With nothing behind them, cursors are at the same token. -/
theorem current_eq (alike : Alike [] [] left right) : right.current.kind = left.current.kind := by
  obtain ⟨front, kinds, kindsOther⟩ := alike.kinds
  rw [Cursor.current_kind, Cursor.current_kind, kinds, kindsOther, alike.ends, alike.endsOther]

/-- With nothing behind them, cursors can go past any token. -/
theorem step (alike : Alike [] [] left right) : Alike [] [] left.advance right.advance := by
  obtain ⟨front, kinds, kindsOther⟩ := alike.kinds
  refine { alike with kinds := ⟨front.drop 1, ?_, ?_⟩ }
  · simpa [Cursor.advance] using congrArg List.tail kinds
  · simpa [Cursor.advance] using congrArg List.tail kindsOther

/-- Where one side has a semicolon left at most, the other side has nothing left if there is no
semicolon in it. -/
theorem nothing_left (alike : Alike tail [] left right)
    (remains : left.rest.map Token.kind = [] ∨ left.rest.map Token.kind = [.symbol .semicolon])
    (noSemicolon : ∀ token ∈ right.rest, token.kind ≠ .symbol .semicolon) :
    right.rest = [] ∧ (tail = [] ∨ tail = [.symbol .semicolon]) := by
  obtain ⟨front, kinds, kindsOther⟩ := alike.kinds
  rw [List.append_nil] at kindsOther
  cases front with
  | nil =>
      rw [kinds] at remains
      exact ⟨List.map_eq_nil_iff.1 kindsOther, remains⟩
  | cons kind front =>
      rw [kinds] at remains
      rcases remains with impossible | single
      · cases impossible
      · simp only [List.cons_append, List.cons.injEq] at single
        have member : Kind.symbol .semicolon ∈ right.rest.map Token.kind := by
          rw [kindsOther, single.1]
          exact List.mem_cons_self
        obtain ⟨token, inRest, isSemicolon⟩ := List.mem_map.1 member
        exact absurd isSemicolon (noSemicolon token inRest)

end Cursor.Alike

namespace Grammar

variable {pairs : Cursor → Cursor → Prop} {left right : Cursor}

theorem followsAt_accept (pairing : Cursor.Pairing .semicolon pairs) (paired : pairs left right)
    {kind : Kind} (inside : kind.isInside) :
    Rule.FollowsAt pairs left right (Rule.accept kind) (Rule.accept kind) := by
  intro taken after outcome
  rcases Rule.accept_eq_ok.1 outcome with ⟨isKind, rfl, rfl⟩ | ⟨notKind, rfl, rfl⟩
  · have insideHere : left.current.kind.isInside := isKind ▸ inside
    have isKindRight := (pairing.current_eq paired insideHere).trans isKind
    exact ⟨_, Rule.accept_eq_ok.2 (.inl ⟨isKindRight, rfl, rfl⟩), pairing.advance paired insideHere⟩
  · have same := pairing.apply_current paired (· = kind) (by
      apply propext
      constructor
      · rintro rfl
        cases inside
      · rintro rfl
        cases inside)
    have notKindRight : right.current.kind ≠ kind := fun isKind => notKind (same.mp isKind)
    exact ⟨right, Rule.accept_eq_ok.2 (.inr ⟨notKindRight, rfl, rfl⟩), paired⟩

/-- A call does not tell a semicolon from the end of input at any place. -/
theorem followCalls (pairing : Cursor.Pairing .semicolon pairs) : Rules.FollowCalls pairs := by
  intro rules other _ name follows left right paired
  apply pairing.expect paired rfl
  intro left right paired
  apply (followsAt_accept pairing paired rfl).bind
  intro closed left right paired
  cases closed with
  | true => exact .pure paired _
  | false =>
      apply pairing.checkPair paired rfl rfl rfl rfl
      · intro isStar isClose
        have insideStar : left.current.kind.isInside := by
          rw [beq_iff_eq.1 isStar]
          rfl
        have insideClose : left.advance.current.kind.isInside := by
          rw [Cursor.current_advance, beq_iff_eq.1 isClose]
          rfl
        intro value after outcome
        cases outcome
        exact ⟨_, rfl, pairing.advance (pairing.advance paired insideStar) insideClose⟩
      · exact follows paired

/-- What is read by an assembled rule from tokens up to a semicolon is read from the same tokens
elsewhere, with as many levels as there are tokens. -/
theorem Assembled.read_alike {α : Type} {rule : Rules → Rule α}
    (assembled : Assembled .semicolon true ownLevels false none rule) {tail other : List Kind}
    {left right : Cursor}
    (alike : Cursor.Alike tail other left right) {level levelOther : Nat}
    (enough : right.rest.length ≤ levelOther) (atMost : levelOther ≤ level) {value : α}
    {after : Cursor} (read : rule ⟨ruleWithin level⟩ left = .ok value after) :
    ∃ behind, rule ⟨ruleWithin levelOther⟩ right = .ok value behind ∧
      Cursor.Alike tail other after behind := by
  have pairing := Cursor.Alike.pairing tail other
  obtain ⟨behind, readRight, alikeAfter⟩ := assembled.followsAt_ruleWithin pairing
    (followCalls pairing) (Nat.le_refl level) alike read
  have same := assembled.congr (forward_ruleWithin levelOther) (ruleWithin_eq atMost)
    ⟨alike.endsOther, enough, nofun⟩ nofun
  exact ⟨behind, same.trans readRight, alikeAfter⟩

end Grammar

/-! ## Whole statements -/

/-- Some tokens stand before all semicolons: they are all tokens there are, or all but a semicolon at the
end. -/
structure Token.Precede (front tokens : List Token) : Prop where
  noSemicolon : ∀ token ∈ front, token.kind ≠ .symbol .semicolon
  rest : tokens = front ∨ ∃ token, token.kind = .symbol .semicolon ∧ tokens = front ++ [token]

/-- Tokens with the same meaning lack the same kinds. -/
theorem Token.ne_of_kinds {tokens others : List Token} {kind : Kind}
    (kinds : others.map Token.kind = tokens.map Token.kind)
    (lacks : ∀ token ∈ tokens, token.kind ≠ kind) : ∀ token ∈ others, token.kind ≠ kind := by
  intro token member isKind
  have inKinds : kind ∈ tokens.map Token.kind := by
    rw [← kinds, ← isKind]
    exact List.mem_map_of_mem member
  obtain ⟨other, inTokens, isOther⟩ := List.mem_map.1 inKinds
  exact lacks other inTokens isOther

/-- Tokens can be cut before the first semicolon. -/
theorem Token.exists_cut (tokens : List Token) :
    ∃ front tail : List Token, tokens = front ++ tail ∧
      (∀ token ∈ front, token.kind ≠ .symbol .semicolon) ∧
      ∀ token ∈ tail.head?, token.kind = .symbol .semicolon := by
  induction tokens with
  | nil => exact ⟨[], [], rfl, nofun, nofun⟩
  | cons token tokens ih =>
      by_cases isSemicolon : token.kind = .symbol .semicolon
      · exact ⟨[], token :: tokens, rfl, nofun, by simpa using isSemicolon⟩
      · obtain ⟨front, tail, rfl, noSemicolon, stops⟩ := ih
        exact ⟨token :: front, tail, rfl, by simpa [isSemicolon] using noSemicolon, stops⟩

namespace Statement

open Grammar

variable {limit : Nat} {statement : Statement} {tokens others front : List Token} {last end_ : Token}
  {after : Cursor}

/-- At the end of input no statement is read. -/
theorem ne_nil_of_read {rules : Rules}
    (read : Grammar.statement rules (.start tokens last limit) = .ok statement after)
    (ends : last.kind = .finish) : tokens ≠ [] := by
  rintro rfl
  have atEnd : (Cursor.start [] last limit).current.kind = .finish := ends
  unfold Grammar.statement at read
  rw [Rule.kind_bind, atEnd] at read
  cases read

/-- Behind a whole statement a semicolon is left at most. -/
theorem remains_of_whole {between stop : Cursor}
    (onlyTokens : ∀ token ∈ between.rest, token.kind ≠ .finish) (atEnd : stop.current.kind = .finish)
    (stops : between.current.kind = .symbol .semicolon ∧ stop = between.advance ∨
      between.current.kind ≠ .symbol .semicolon ∧ stop = between) :
    between.rest.map Token.kind = [] ∨ between.rest.map Token.kind = [.symbol .semicolon] := by
  rcases stops with ⟨isSemicolon, rfl⟩ | ⟨-, rfl⟩
  · cases unread : between.rest with
    | nil => exact .inl rfl
    | cons token rest =>
        right
        have empty : between.advance.rest = [] :=
          Cursor.rest_eq_nil_of_atEnd
            (fun token member => onlyTokens token (List.mem_of_mem_drop member)) atEnd
        rw [Cursor.current_cons between token rest unread] at isSemicolon
        simp only [Cursor.advance, unread, List.drop_succ_cons, List.drop_zero] at empty
        simp [empty, isSemicolon]
  · left
    rw [Cursor.rest_eq_nil_of_atEnd onlyTokens atEnd]
    rfl

theorem whole_of_nothing_left {cursor after : Cursor}
    (read : complete Grammar.statement cursor = .ok statement after) (ended : after.rest = [])
    (ends : after.last.kind = .finish) : parse.whole cursor = .ok statement after := by
  have atEnd := Cursor.current_of_rest_eq_nil ended ends
  have notSemicolon : after.current.kind ≠ .symbol .semicolon := by
    rw [atEnd]
    nofun
  exact whole_eq_ok_iff.2 ⟨after, read, atEnd, .inr ⟨notSemicolon, rfl⟩⟩

theorem forward_statement (level : Nat) : (Grammar.statement ⟨ruleWithin level⟩).Forward := by
  have assembled : Assembled .semicolon true 1 false none fun rules => Grammar.statement rules := .statement
  exact assembled.forward (forward_ruleWithin level)

/-- A statement that is read from tokens up to a semicolon is read from other tokens with the same
meaning. -/
theorem statement_elsewhere {tail : List Token} {between : Cursor}
    (read : complete Grammar.statement (.start (front ++ tail) last limit) = .ok statement between)
    (stops : ∀ token ∈ tail.head?, token.kind = .symbol .semicolon) (ends : last.kind = .finish)
    (kinds : others.map Token.kind = front.map Token.kind) (endsOther : end_.kind = .finish) :
    ∃ behind, complete Grammar.statement (.start others end_ limit) = .ok statement behind ∧
      Cursor.Alike (tail.map Token.kind) [] between behind := by
  have stopsKinds : ∀ kind ∈ (tail.map Token.kind).head?, kind = .symbol .semicolon := by
    cases tail with
    | nil => nofun
    | cons token tail => simpa using stops
  have alike : Cursor.Alike (tail.map Token.kind) [] (.start (front ++ tail) last limit)
      (.start others end_ limit) :=
    ⟨⟨front.map Token.kind, by simp [Cursor.start], by simp [Cursor.start, kinds]⟩, stopsKinds, nofun,
      ends, endsOther, rfl, rfl, rfl⟩
  have lengths := congrArg List.length kinds
  simp only [List.length_map] at lengths
  have enough : others.length ≤ 2 * (others.length + 1) := by omega
  have atMost : 2 * (others.length + 1) ≤ 2 * ((front ++ tail).length + 1) := by
    rw [List.length_append]
    omega
  exact Assembled.statement.read_alike alike enough atMost read

/-- A statement with a semicolon behind it at most is read to the end from other tokens with the same
meaning. -/
theorem complete_elsewhere {tail : List Token} {between : Cursor}
    (read : complete Grammar.statement (.start (front ++ tail) last limit) = .ok statement between)
    (remains : between.rest.map Token.kind = [] ∨ between.rest.map Token.kind = [.symbol .semicolon])
    (noSemicolon : ∀ token ∈ front, token.kind ≠ .symbol .semicolon)
    (stops : ∀ token ∈ tail.head?, token.kind = .symbol .semicolon) (ends : last.kind = .finish)
    (kinds : others.map Token.kind = front.map Token.kind) (endsOther : end_.kind = .finish) :
    ∃ behind, complete Grammar.statement (.start others end_ limit) = .ok statement behind ∧
      behind.rest = [] ∧ behind.last.kind = .finish ∧
      (tail.map Token.kind = [] ∨ tail.map Token.kind = [.symbol .semicolon]) := by
  obtain ⟨behind, readOther, alike⟩ := statement_elsewhere read stops ends kinds endsOther
  have noneLeft : ∀ token ∈ behind.rest, token.kind ≠ .symbol .semicolon := fun token member =>
    Token.ne_of_kinds kinds noSemicolon token ((forward_statement _ readOther).rest.subset member)
  obtain ⟨ended, single⟩ := alike.nothing_left remains noneLeft
  exact ⟨behind, readOther, ended, alike.endsOther, single⟩

/-- What is read as a whole statement are tokens before all semicolons, and other tokens with the same
meaning are read as the same statement. -/
theorem whole_precede (read : parse.whole (.start tokens last limit) = .ok statement after)
    (onlyTokens : ∀ token ∈ tokens, token.kind ≠ .finish) (ends : last.kind = .finish) :
    ∃ front, front ≠ [] ∧ Token.Precede front tokens ∧
      ∀ {others : List Token} {end_ : Token}, others.map Token.kind = front.map Token.kind →
        end_.kind = .finish →
          ∃ behind, parse.whole (.start others end_ limit) = .ok statement behind := by
  obtain ⟨front, tail, rfl, noSemicolon, stops⟩ := Token.exists_cut tokens
  obtain ⟨between, readStatement, atEnd, stopsAfter⟩ := whole_eq_ok_iff.1 read
  have unread := (forward_statement _ readStatement).rest
  have remains := remains_of_whole (fun token member => onlyTokens token (unread.subset member)) atEnd
    stopsAfter
  obtain ⟨_, readFront, -, -, single⟩ :=
    complete_elsewhere readStatement remains noSemicolon stops ends rfl ends
  refine ⟨front, ne_nil_of_read readFront ends, ⟨noSemicolon, ?_⟩, ?_⟩
  · rcases single with empty | one
    · left
      rw [List.map_eq_nil_iff.1 empty, List.append_nil]
    · right
      obtain ⟨token, rfl, isSemicolon⟩ := List.map_eq_singleton_iff.1 one
      exact ⟨token, isSemicolon, rfl⟩
  · intro others end_ kinds endsOther
    obtain ⟨behind, readOther, ended, endsBehind, -⟩ :=
      complete_elsewhere readStatement remains noSemicolon stops ends kinds endsOther
    exact ⟨behind, whole_of_nothing_left readOther ended endsBehind⟩

/-- Tokens with the same meaning are read as the same whole statement. -/
theorem whole_of_kinds (read : parse.whole (.start tokens last limit) = .ok statement after)
    (ends : last.kind = .finish) (kinds : others.map Token.kind = tokens.map Token.kind)
    (endsOther : end_.kind = .finish) :
    ∃ behind, parse.whole (.start others end_ limit) = .ok statement behind := by
  obtain ⟨between, readStatement, atEnd, stops⟩ := whole_eq_ok_iff.1 read
  rw [← List.append_nil tokens] at readStatement
  obtain ⟨behind, readOther, alike⟩ :=
    statement_elsewhere readStatement nofun ends kinds endsOther
  have same := alike.current_eq
  rcases stops with ⟨isSemicolon, rfl⟩ | ⟨notSemicolon, rfl⟩
  · have sameNext := alike.step.current_eq
    exact ⟨_, whole_eq_ok_iff.2 ⟨behind, readOther, sameNext.trans atEnd,
      .inl ⟨same.trans isSemicolon, rfl⟩⟩⟩
  · exact ⟨_, whole_eq_ok_iff.2 ⟨behind, readOther, same.trans atEnd,
      .inr ⟨same ▸ notSemicolon, rfl⟩⟩⟩

/-- Texts with tokens of the same meaning are read as the same statement. -/
theorem parse_of_kinds {text other : String} (scanned : Scan.tokens? text = .ok (tokens, last))
    (scannedOther : Scan.tokens? other = .ok (others, end_))
    (kinds : others.map Token.kind = tokens.map Token.kind)
    (read : parse limit text = .ok statement) : parse limit other = .ok statement := by
  obtain ⟨_, rfl, -⟩ := Scan.tokens?_eq_ok_iff.1 scanned
  obtain ⟨_, rfl, -⟩ := Scan.tokens?_eq_ok_iff.1 scannedOther
  obtain ⟨after, readWhole⟩ := (parse_eq_ok_iff scanned).1 read
  exact (parse_eq_ok_iff scannedOther).2 (whole_of_kinds readWhole rfl kinds rfl)

end Statement

end GraphSql
