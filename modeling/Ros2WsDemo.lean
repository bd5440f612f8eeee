import Ros2WsDemo.Lib.Trace
import Ros2WsDemo.Lib.Interleaving
import Ros2WsDemo.MapUpdate.Incremental
import Ros2WsDemo.MapUpdate.WholeSync
import Ros2WsDemo.Session.WorkLoop
import Ros2WsDemo.Session.InitHonest
import Ros2WsDemo.Velocity.Commands
import Ros2WsDemo.Stcm.Agreement
import Ros2WsDemo.MapUpdate.FailedSync
import Ros2WsDemo.Session.SessionSafety
import Ros2WsDemo.Velocity.Sessions
import Ros2WsDemo.Session.StartRun
import Ros2WsDemo.Lib.ExactFloat
import Ros2WsDemo.Grasp.HeldObject
import Ros2WsDemo.Planner.Executor
import Ros2WsDemo.Lib.ExceptState
import Ros2WsDemo.Planner.NoRaise
import Ros2WsDemo.Planner.RealPose
import Ros2WsDemo.Lib.Mailbox
import Ros2WsDemo.Voice.Latch
import Ros2WsDemo.MultiFloor.Navigator
import Ros2WsDemo.MapHolder.BoundingCells
import Ros2WsDemo.MapHolder.Growth
import Ros2WsDemo.Laser.Bins
import Ros2WsDemo.Dedupe.Subscriber
import Ros2WsDemo.MapUpdate.NearRobot
import Ros2WsDemo.MapHolder.SourceReads
import Ros2WsDemo.MapHolder.Sizes
import Ros2WsDemo.Dedupe.Dispatch
import Ros2WsDemo.Grasp.Stow
import Ros2WsDemo.Grasp.ValidateMove
import Ros2WsDemo.Grasp.PoseConfig
import Ros2WsDemo.Laser.Published
import Ros2WsDemo.Convert.MsgConvert
import Ros2WsDemo.Convert.Messages
import Ros2WsDemo.Sensors.Info
import Ros2WsDemo.Sensors.Values
import Ros2WsDemo.Lib.WhileLoop
import Ros2WsDemo.MapUpdate.Terminates
import Ros2WsDemo.Lib.PreorderJoin
import Ros2WsDemo.MapHolder.RectAlgebra
import Ros2WsDemo.MapHolder.Alignment
import Ros2WsDemo.Laser.BinAngle
import Ros2WsDemo.Lib.JsonText
import Ros2WsDemo.Planner.Answer
import Ros2WsDemo.Lib.NumpyArray
import Ros2WsDemo.Vision.DepthCloud
import Ros2WsDemo.Vision.ButtonPose
import Ros2WsDemo.Vision.RealButton
import Ros2WsDemo.Grasp.PoseText
import Ros2WsDemo.Planner.ExplicitPose
import Ros2WsDemo.Lib.Pacing
import Ros2WsDemo.Schedule.LoopWork
import Ros2WsDemo.Lib.Sequential
import Ros2WsDemo.Schedule.OnTime
import Ros2WsDemo.Schedule.Pace
import Ros2WsDemo.Lib.FrameTree
import Ros2WsDemo.Lib.RigidTransform
import Ros2WsDemo.Transforms.Broadcast
import Ros2WsDemo.Transforms.Shape
import Ros2WsDemo.Transforms.Runs
import Ros2WsDemo.MapUpdate.Reported
import Ros2WsDemo.MapUpdate.LoopClosure
import Ros2WsDemo.Requests.Callbacks
import Ros2WsDemo.Requests.Served
import Ros2WsDemo.Requests.Expressible
import Ros2WsDemo.Laser.Beams
import Ros2WsDemo.Laser.RawStream
import Ros2WsDemo.Sensors.Topics
import Ros2WsDemo.Stcm.Backup
import Ros2WsDemo.Requests.Lines
import Ros2WsDemo.Grasp.Console
import Ros2WsDemo.MultiFloor.FloorMap
