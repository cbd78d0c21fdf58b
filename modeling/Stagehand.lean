import Stagehand.Text.Alphanumeric
import Stagehand.Text.Blank
import Stagehand.Text.Quoted
import Stagehand.Duration
import Stagehand.Path
import Stagehand.SystemError
import Stagehand.Request.Rejection
import Stagehand.Staging.Error
import Stagehand.Workflow.Error
import Stagehand.Broker.Error
import Stagehand.Config.Error
import Stagehand.FileTree.Change
import Stagehand.Journal.Entry
import Stagehand.Workspace.Ensure
import Stagehand.Request.Basic
import Stagehand.Store.ChunkReader
import Stagehand.Store.Listing
import Stagehand.Staging.Payload
import Stagehand.Workflow.Invocation
import Stagehand.Job.Run
import Stagehand.Rehearsal.Engine
import Stagehand.Rehearsal.Store
import Stagehand.Workflow.Runner
import Stagehand.Config.Check
import Stagehand.Config.Text
import Stagehand.Yaml.Scalar
import Stagehand.Yaml.Token
import Stagehand.Yaml.Tokens
import Stagehand.Config.File
import Stagehand.CommandLine.Start
import Stagehand.Main
import Stagehand.Proofs.Staging.Calls
import Stagehand.Proofs.Job.Calls
import Stagehand.Proofs.Job.Run
import Stagehand.Proofs.Path.Below
import Stagehand.Proofs.FileTree.Resolution
import Stagehand.Proofs.FileTree.Region
import Stagehand.Proofs.FileTree.Place
import Stagehand.Proofs.FileTree.Edits
import Stagehand.Proofs.FileTree.Change
import Stagehand.Proofs.Workspace.Ensure
import Stagehand.Proofs.Staging.Content
import Stagehand.Proofs.Job.Execution
import Stagehand.Proofs.Job.Preparation
import Stagehand.Proofs.Job.Confinement
import Stagehand.Proofs.Job.Input
import Stagehand.Rehearsal.Dispatcher
import Stagehand.Proofs.FileTree.Persistence
import Stagehand.Proofs.Staging.Complete
import Stagehand.Proofs.Staging.Files
import Stagehand.Proofs.FileTree.Alike
import Stagehand.Proofs.Job.AlikeTrees
import Stagehand.Proofs.Job.Isolation
import Stagehand.Proofs.Staging.Failure
import Stagehand.Proofs.Store.Listing
import Stagehand.Proofs.Request.Decision
import Stagehand.Proofs.Job.Refusal
import Stagehand.Proofs.Job.Siblings
import Stagehand.Proofs.Path.Components
import Stagehand.Proofs.Workspace.Outputs
import Stagehand.Proofs.Job.Outputs
import Stagehand.Proofs.FileTree.Rewrites
import Stagehand.Proofs.FileTree.Repetition
import Stagehand.Proofs.Staging.Openings
import Stagehand.Proofs.Staging.Resumption
import Stagehand.Proofs.Job.Reuse
import Stagehand.Proofs.Store.ByteStream
import Stagehand.Proofs.FileTree.Parent
import Stagehand.Proofs.Workspace.Attempt
import Stagehand.Proofs.Workflow.Containment
import Stagehand.Proofs.Journal.Kind
import Stagehand.Proofs.Staging.Log
import Stagehand.Proofs.Workflow.Log
import Stagehand.Proofs.Job.Log
import Stagehand.Proofs.Request.Announcement
import Stagehand.Proofs.Job.Announcement
import Stagehand.Proofs.Staging.Destination
import Stagehand.Store.Remote
import Stagehand.Proofs.Staging.Locations
import Stagehand.Proofs.Job.Span
import Stagehand.Proofs.Config.Load
