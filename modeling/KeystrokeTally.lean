import KeystrokeTally.Text.Blank
import KeystrokeTally.Text.Lower
import KeystrokeTally.Text.Digits
import KeystrokeTally.Arith.Checked
import KeystrokeTally.Decimal.Shortest
import KeystrokeTally.Decimal.Nearest
import KeystrokeTally.Decimal.Display
import KeystrokeTally.Format.Json.Value
import KeystrokeTally.Format.Json.Reader
import KeystrokeTally.Format.Json.Writer
import KeystrokeTally.Proc.Table
import KeystrokeTally.Proc.StatLine
import KeystrokeTally.Tally.Store
import KeystrokeTally.Window.Metadata
import KeystrokeTally.Stats.Counters
import KeystrokeTally.Log.Level
import KeystrokeTally.Proc.Graph.Basic
import KeystrokeTally.Proc.Graph.Upsert
import KeystrokeTally.Proc.Graph.Refresh
import KeystrokeTally.Proc.Graph.Remove
import KeystrokeTally.Proc.Graph.Render
import KeystrokeTally.Tally.CounterFile
import KeystrokeTally.Disk.Tree
import KeystrokeTally.Proc.Source
import KeystrokeTally.Classify.Group
import KeystrokeTally.Classify.Tier
import KeystrokeTally.Window.Table
import KeystrokeTally.Window.Cache
import KeystrokeTally.Tally.Memory
import KeystrokeTally.Tally.Database
import KeystrokeTally.Tally.Aggregator
import KeystrokeTally.Text.PrintData
import KeystrokeTally.Text.Escaped
import KeystrokeTally.Format.Json.Expect
import KeystrokeTally.Format.Json.Tagged
import KeystrokeTally.Event.Basic
import KeystrokeTally.Replay.Record
import KeystrokeTally.Scene
import KeystrokeTally.Replay.Source
import KeystrokeTally.Event.Filter
import KeystrokeTally.Event.Pump
import KeystrokeTally.Format.Writer
import KeystrokeTally.Config.Basic
import KeystrokeTally.Config.Validate
import KeystrokeTally.Format.Yaml.Token
import KeystrokeTally.Format.Yaml.Token.Scalar
import KeystrokeTally.Format.Yaml.Token.Lexer
import KeystrokeTally.Format.Yaml.Event
import KeystrokeTally.Format.Yaml.Document
import KeystrokeTally.Format.Toml.Token
import KeystrokeTally.Format.Toml.Document
import KeystrokeTally.Config.Schema
import KeystrokeTally.Config.YamlFile
import KeystrokeTally.Config.JsonFile
import KeystrokeTally.Config.TomlFile
import KeystrokeTally.Config.Load
import KeystrokeTally.Config.Render
import KeystrokeTally.Text.Jaro
import KeystrokeTally.Cli.Spec
import KeystrokeTally.Cli.Help
import KeystrokeTally.Cli.Error
import KeystrokeTally.Cli.Parse
import KeystrokeTally.Cli.Args
import KeystrokeTally.Host
import KeystrokeTally.Requirements
import KeystrokeTally.Calendar.Civil
import KeystrokeTally.Random.ChaCha
import KeystrokeTally.Random.Generator
import KeystrokeTally.Command.Outcome
import KeystrokeTally.Command.Check
import KeystrokeTally.Command.Config
import KeystrokeTally.Command.Groups
import KeystrokeTally.Command.Tree
import KeystrokeTally.Command.Classify
import KeystrokeTally.Command.Stats
import KeystrokeTally.Command.Generate
import KeystrokeTally.Launch
import KeystrokeTally.Collector
import KeystrokeTally.Main
import KeystrokeTally.Proofs.Graph.Arena
import KeystrokeTally.Proofs.Graph.Ancestry
import KeystrokeTally.Proofs.Graph.Consistent
import KeystrokeTally.Proofs.Graph.Relink
import KeystrokeTally.Proofs.Graph.Insert
import KeystrokeTally.Proofs.Graph.Pass
import KeystrokeTally.Proofs.Graph.Removal
import KeystrokeTally.Proofs.Graph.Run
import KeystrokeTally.Proofs.Graph.Walk
import KeystrokeTally.Proofs.Graph.Roots
import KeystrokeTally.Proofs.Graph.Declared
import KeystrokeTally.Proofs.Graph.Handles
import KeystrokeTally.Proofs.Graph.Seen
import KeystrokeTally.Proofs.Graph.Sync
import KeystrokeTally.Proofs.Graph.Coverage
import KeystrokeTally.Proofs.Graph.Sweep
import KeystrokeTally.Proofs.Graph.Lineage
import KeystrokeTally.Proofs.Monitor.Tables
import KeystrokeTally.Proofs.Monitor.Watch
import KeystrokeTally.Proofs.Monitor.Race
import KeystrokeTally.Proofs.Tally.Cycle
import KeystrokeTally.Proofs.Tally.Totals
import KeystrokeTally.Proofs.Collector.Shutdown
import KeystrokeTally.Proofs.Classify.Tiers
import KeystrokeTally.Proofs.Tally.Backends
import KeystrokeTally.Proofs.Replay.Framing
import KeystrokeTally.Proofs.Event.Reference
import KeystrokeTally.Proofs.Event.Refinement
import KeystrokeTally.Proofs.Graph.Placement
import KeystrokeTally.Proofs.Graph.Report
import KeystrokeTally.Proofs.Graph.Cascade
import KeystrokeTally.Proofs.Tally.Bucket
import KeystrokeTally.Proofs.Proc.StatLine
import KeystrokeTally.Proofs.Window.Memo
import KeystrokeTally.Proofs.Classify.EmptyNames
import KeystrokeTally.Proofs.Config.Attribution
import KeystrokeTally.Proofs.Graph.Leaf
import KeystrokeTally.Proofs.Graph.Outline
import KeystrokeTally.Proofs.Graph.Chased
import KeystrokeTally.Proofs.Graph.Dump
import KeystrokeTally.Proofs.Command.Generated
import KeystrokeTally.Proofs.Disk.Paths
import KeystrokeTally.Proofs.Proc.Procfs
import KeystrokeTally.Proofs.Graph.Termination
