import GraphSql.Text.Blank
import GraphSql.Text.Capital
import GraphSql.Text.Letter
import GraphSql.Text.Lower
import GraphSql.Text.Escaped
import GraphSql.Text.Quoted
import GraphSql.Token.Scan
import GraphSql.Syntax.Document
import GraphSql.Script
import GraphSql.Rewrite.Dispatch
import GraphSql.Session.Extension
import GraphSql.Settings.Basic
import GraphSql.Proofs.Rewrite.Numbering
import GraphSql.Proofs.Session.Run
import GraphSql.Proofs.Grammar.Forward
import GraphSql.Proofs.Grammar.Assembly
import GraphSql.Proofs.Grammar.Assembly.Expression
import GraphSql.Proofs.Grammar.Assembly.Pattern
import GraphSql.Proofs.Grammar.Assembly.Query
import GraphSql.Proofs.Grammar.Assembly.Statement
import GraphSql.Proofs.Grammar.Following
import GraphSql.Proofs.Grammar.FollowingRules
import GraphSql.Proofs.Token.Division
import GraphSql.Proofs.Grammar.Parentheses
import GraphSql.Proofs.Script.Parentheses
import GraphSql.Proofs.Grammar.Balance
import GraphSql.Proofs.Grammar.Reading
import GraphSql.Proofs.Rewrite.Depth
import GraphSql.Proofs.Rewrite.Service
import GraphSql.Proofs.Grammar.Height
import GraphSql.Proofs.Script.Height
import GraphSql.Proofs.Syntax.Queries
import GraphSql.Proofs.Grammar.Contents
import GraphSql.Proofs.Grammar.Definitions
import GraphSql.Proofs.Grammar.Contents.Query
import GraphSql.Proofs.Script.Contents
import GraphSql.Proofs.Script.Definitions
import GraphSql.Proofs.Rewrite.Copies
import GraphSql.Proofs.Script.Copies
import GraphSql.Proofs.Rewrite.Renumbering
import GraphSql.Proofs.Rewrite.Repetition
import GraphSql.Proofs.Grammar.Matches
import GraphSql.Proofs.Script.Matches
import GraphSql.Proofs.Token.GapText
import GraphSql.Proofs.Token.Layout
import GraphSql.Proofs.Grammar.Level
import GraphSql.Proofs.Script.Semicolon
import GraphSql.Proofs.Script.Coverage
import GraphSql.Proofs.Script.Split
import GraphSql.Proofs.Session.Hook
import GraphSql.Proofs.Grammar.Limit
import GraphSql.Proofs.Grammar.Outcome
import GraphSql.Proofs.Grammar.Component
import GraphSql.Proofs.Script.Limit
import GraphSql.Proofs.Script.Selects
import GraphSql.Proofs.Grammar.Ladder.Expression
import GraphSql.Proofs.Rewrite.Placement
import GraphSql.Proofs.Grammar.Placement
import GraphSql.Proofs.Script.Placement
import GraphSql.Proofs.Grammar.Readback
import GraphSql.Proofs.Syntax.Spelling
import GraphSql.Proofs.Grammar.Ladder.Spelling
import GraphSql.Proofs.Grammar.Readback.Clause
import GraphSql.Proofs.Grammar.Readback.Query
import GraphSql.Proofs.Grammar.Readback.Spelling
import GraphSql.Proofs.Grammar.Readback.Again
import GraphSql.Proofs.Grammar.Readback.Context
import GraphSql.Proofs.Script.Context
import GraphSql.Proofs.Script.Location
import GraphSql.Proofs.Script.Batch
import GraphSql.Proofs.Script.Spacing
import GraphSql.Proofs.Rewrite.Sites
import GraphSql.Proofs.Rewrite.Wrapping
import GraphSql.Proofs.Script.Numbers
import GraphSql.Proofs.Grammar.Sight
import GraphSql.Proofs.Grammar.Stores
import GraphSql.Proofs.Grammar.Stores.Expression
import GraphSql.Proofs.Grammar.Stores.Pattern
import GraphSql.Proofs.Grammar.Stores.Query
import GraphSql.Proofs.Grammar.Stores.Statement
import GraphSql.Proofs.Script.Literals
import GraphSql.Proofs.Grammar.Stores.Plain
import GraphSql.Proofs.Grammar.Signs
import GraphSql.Proofs.Script.Wrappers
import GraphSql.Proofs.Session.Plan
import GraphSql.Proofs.Grammar.Confined
import GraphSql.Proofs.Grammar.Layers
import GraphSql.Proofs.Grammar.Layers.Inside
import GraphSql.Proofs.Script.Layers
import GraphSql.Proofs.Grammar.Run
import GraphSql.Proofs.Grammar.Taking
import GraphSql.Proofs.Grammar.Progress
import GraphSql.Proofs.Syntax.Parts
import GraphSql.Proofs.Grammar.Yields
import GraphSql.Proofs.Syntax.Drawing
import GraphSql.Proofs.Grammar.Readback.Drawing
import GraphSql.Proofs.Grammar.Parts
import GraphSql.Proofs.Grammar.Parts.Query
import GraphSql.Proofs.Script.Parts
import GraphSql.Proofs.Script.Patterns
import GraphSql.Proofs.Script.Integers
import GraphSql.Proofs.Document
import GraphSql.Proofs.Syntax.Document
import GraphSql.Proofs.Syntax.Exact
import GraphSql.Proofs.Script.Document
import GraphSql.Proofs.Syntax.Graphs
import GraphSql.Proofs.Grammar.Spelled
import GraphSql.Proofs.Grammar.Graphs
import GraphSql.Proofs.Grammar.Readback.Graphs
import GraphSql.Proofs.Token.Written
import GraphSql.Proofs.Script.Graphs
import GraphSql.Proofs.Token.Quotes
import GraphSql.Proofs.Grammar.Needs
import GraphSql.Proofs.Grammar.Needs.Loose
import GraphSql.Proofs.Grammar.Needs.Tight
import GraphSql.Proofs.Syntax.Phrases
import GraphSql.Proofs.Grammar.Phrases
import GraphSql.Proofs.Token.Digits
import GraphSql.Proofs.Script.Numerals
import GraphSql.Proofs.Token.Merging
import GraphSql.Proofs.Grammar.Seams
import GraphSql.Proofs.Grammar.Seams.Expression
import GraphSql.Proofs.Grammar.Seams.Query
import GraphSql.Proofs.Token.Neighbours
import GraphSql.Proofs.Token.Unspaced
import GraphSql.Proofs.Script.Operators
import GraphSql.Proofs.Rewrite.Edits
import GraphSql.Proofs.Decimal.Overflow
import GraphSql.Proofs.Token.Numerals
import GraphSql.Proofs.Grammar.Curtailed
import GraphSql.Proofs.Syntax.Transfers
import GraphSql.Proofs.Grammar.Readback.Options
import GraphSql.Proofs.Grammar.Readback.Transfers
import GraphSql.Proofs.Grammar.Transfers
import GraphSql.Proofs.Script.Transfers
