import Farado.Lib.Steps.Interleave
import Farado.Lib.Steps.ReadOnly
import Farado.Lib.Steps.Runs
import Farado.Lib.Relational.Cascade
import Farado.Lib.TextStream
import Farado.Lib.While
import Farado.Lib.Calendar
import Farado.Lib.Calls
import Farado.Storage.Connection
import Farado.Storage.Dto
import Farado.Storage.DateTime
import Farado.Storage.Path
import Farado.Storage.Statement
import Farado.Storage.Reference
import Farado.Storage.ThreadSafety
import Farado.Repositories.Readers
import Farado.Repositories.RoundTrip
import Farado.Repositories.Updates
import Farado.Repositories.Removal
import Farado.Services.Workflow
import Farado.Services.ItemType
import Farado.Services.Project
import Farado.Services.Effects
import Farado.Services.ConcurrentCreates
import Farado.Services.Paging
import Farado.Services.Auth
import Farado.Workflows.Captions
import Farado.Workflows.Graph
import Farado.Workflows.Deletion
import Farado.Workflows.StateDeletion
import Farado.Workflows.Guards
import Farado.Workflows.DefaultState
import Farado.Workflows.Bounds
import Farado.Workflows.CaptionRace
import Farado.Workflows.DeletionRace
import Farado.Projects.Forest
import Farado.Projects.Search
import Farado.Projects.Dates
import Farado.Api.Handlers
import Farado.Api.Unconvertible
import Farado.Api.Reference
import Farado.Api.Routes
import Farado.Api.Unambiguous
import Farado.Api.PathIds
import Farado.Api.Agreement
import Farado.Api.Shown
import Farado.Api.ReadBack
import Farado.Generator.RoundTrip
import Farado.Sessions.Logout
import Farado.Sessions.Password
import Farado.Sessions.Blocking
import Farado.Sessions.Independence
import Farado.Sessions.Spelling
import Farado.Sessions.Hashes
import Farado.Sessions.Requests
import Farado.Sessions.Interleaved
import Farado.Migrations.VersionTable
import Farado.Migrations.SeededHash
import Farado.Migrations.Undo
import Farado.Api.Errors
import Farado.Sessions.Administrator
import Farado.Sessions.Renewed
