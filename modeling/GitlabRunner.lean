import GitlabRunner.Golang
import GitlabRunner.Trace.LimitWriter
import GitlabRunner.Kubernetes.Errors
import GitlabRunner.Kubernetes.LogProcessing
import GitlabRunner.Kubernetes.StageDriver
import GitlabRunner.Kubernetes.Api
import GitlabRunner.Kubernetes.Executor
import GitlabRunner.Kubernetes.PodBuilder
import GitlabRunner.Kubernetes.ProxyServices
import GitlabRunner.Kubernetes.Lifecycle
import GitlabRunner.Kubernetes.PodReadiness
import GitlabRunner.Splitic.Buckets
import GitlabRunner.Splitic.Junit
import GitlabRunner.Splitic.Runner
import GitlabRunner.Splitic.Reported
import GitlabRunner.Splitic.Handle
import GitlabRunner.Splitic.Command
import GitlabRunner.Splitic.JunitCheck
import GitlabRunner.Splitic.Cover
import GitlabRunner.Docker.Auth
import GitlabRunner.Jobcontrol.JobCmd
import GitlabRunner.Kubernetes.Prepare
import GitlabRunner.Kubernetes.Scripts
